import Mosaic.Proofs.Partition.Reproduction
import Mosaic.Proofs.Program.Compiled
import Mosaic.Proofs.Program.Traced

/-!
# A program does what drawing its tree does

A tree that can be written has a program, and carrying out the program makes the
same calls on a canvas as drawing the tree, with the same arguments and in the same
order.  What is made is the same, and when a call is refused both end there.  A
program blames what the canvas refuses on the first line of the statement that made
the call, and hands on every other fault as it is.
-/

namespace Mosaic

variable {σ Figure Grid Axis β : Type}

namespace Program
namespace Replay

/-- How carrying out a program compares with drawing a tree on the same canvas. -/
inductive Follows (tree : PartitionTree Float) (settings : Settings) (source : String)
    (canvas : Canvas Float σ Figure Grid Axis) (state : σ) : Prop
  /-- Both make the same things. -/
  | finished {bundle : Bundle Figure Grid Axis} {after : σ}
      (drawn : tree.draw settings canvas state = .ok bundle after)
      (replayed : replay source.toList canvas state = .ok bundle after)
  /-- Both have no figure to draw on. -/
  | noFigure {fault : Fault} {after : σ}
      (refused : canvas.figure (settings.figureSize tree.rows tree.cols) settings.dpi state =
        .error fault after)
      (drawn : tree.draw settings canvas state = .error fault after)
      (replayed : replay source.toList canvas state = .error fault after)
  /-- Both are stopped at the same visit, whose statement the program blames. -/
  | stopped {figure : Figure} {started : σ} {before : List (Node Float × Slot)}
      {entry : Node Float × Slot} {fault : Fault} {reached : Drawing σ Grid Axis} {line : String}
      (made : canvas.figure (settings.figureSize tree.rows tree.cols) settings.dpi state =
        .ok figure started)
      (stops : canvas.StopsAt figure (Drawing.start started) (tree.root.visits .figure) before
        entry fault reached)
      (drawn : tree.draw settings canvas state = .error fault reached.canvas)
      (statement : statementLine entry = some line)
      (listed : (Text.lines source.toList)[statementNumber before entry - 1]? = some line.toList)
      (replayed : replay source.toList canvas state =
        .error (blamed (statementNumber before entry) fault) reached.canvas)

/-- The program of a tree that can be written follows the drawing. -/
theorem follows_listing {tree : PartitionTree Float} (writable : tree.Writable)
    (settings : Settings) (canvas : Canvas Float σ Figure Grid Axis) (state : σ) :
    Follows tree settings (textOfLines (listing tree settings)) canvas state := by
  have agrees := replay_listing canvas writable settings state
  cases drawn : tree.draw settings canvas state with
  | ok bundle after =>
    rw [drawn] at agrees
    exact .finished drawn agrees
  | error fault after =>
    rw [drawn] at agrees
    rcases agrees with ⟨refused, replayed⟩ |
      ⟨figure, started, before, entry, reached, made, stops, rfl, replayed⟩
    · exact .noFigure refused drawn replayed
    · rcases line_of_stopsAt canvas stops settings with ⟨line, statement, found⟩
      refine .stopped made stops drawn statement ?_ replayed
      rw [lines_listing writable, List.getElem?_map, found]
      rfl

/-- The calls on a traced canvas up to the end of a run. -/
private def callsOf :
    EStateM.Result Fault (σ × List (TracedCall Figure Grid)) β → List (TracedCall Figure Grid)
  | .ok _ after => after.2
  | .error _ after => after.2

private theorem callsOf_onState (calls : List (TracedCall Figure Grid))
    (result : EStateM.Result Fault σ β) :
    callsOf (onState (fun after => (after, calls)) result) = calls := by
  cases result <;> rfl

/-- What follows the drawing leaves the canvas as the drawing does. -/
private theorem Follows.callsOf_eq {tree : PartitionTree Float} {settings : Settings}
    {source : String}
    {canvas : Canvas Float (σ × List (TracedCall Figure Grid)) Figure Grid Axis}
    {state : σ × List (TracedCall Figure Grid)}
    (follows : Follows tree settings source canvas state) :
    callsOf (replay source.toList canvas state) = callsOf (tree.draw settings canvas state) := by
  cases follows with
  | finished drawn replayed => rw [drawn, replayed]
  | noFigure refused drawn replayed => rw [drawn, replayed]
  | stopped made stops drawn statement listed replayed =>
    rw [drawn, replayed]
    rfl

/-- A program that follows the drawing on the traced canvas makes the same calls. -/
private theorem same_calls {tree : PartitionTree Float} {settings : Settings} {source : String}
    {canvas : Canvas Float σ Figure Grid Axis} {state : σ}
    (follows : Follows tree settings source canvas.traced (state, [])) :
    ∃ calls,
      tree.draw settings canvas.traced (state, []) =
          onState (fun after => (after, calls)) (tree.draw settings canvas state) ∧
        replay source.toList canvas.traced (state, []) =
          onState (fun after => (after, calls)) (replay source.toList canvas state) := by
  rcases Traces.draw canvas tree settings state [] with ⟨calls, drawn⟩
  rcases traces_replay canvas source.toList state [] with ⟨others, replayed⟩
  rw [List.nil_append] at drawn replayed
  have same := follows.callsOf_eq
  rw [drawn, replayed, callsOf_onState, callsOf_onState] at same
  exact ⟨calls, drawn, same ▸ replayed⟩

/-- A tree that can be written, and every tree of a drawing, has a program that ends as
drawing the tree does on every canvas, after the same calls on it. -/
theorem replay_follows_draw {tree : PartitionTree Float}
    (origin : tree.Writable ∨ tree.IsCompiled) (settings : Settings) :
    ∃ source, tree.program settings = .ok source ∧
      ∀ {σ Figure Grid Axis : Type} (canvas : Canvas Float σ Figure Grid Axis) (state : σ),
        Follows tree settings source canvas state ∧
          ∃ calls,
            tree.draw settings canvas.traced (state, []) =
                onState (fun after => (after, calls)) (tree.draw settings canvas state) ∧
              replay source.toList canvas.traced (state, []) =
                onState (fun after => (after, calls)) (replay source.toList canvas state) := by
  have writable : tree.Writable := origin.elim id PartitionTree.IsCompiled.writable
  refine ⟨textOfLines (listing tree settings), program_eq tree settings, ?_⟩
  intro σ Figure Grid Axis canvas state
  exact ⟨follows_listing writable settings canvas state,
    same_calls (follows_listing writable settings canvas.traced (state, []))⟩

theorem replay_follows_draw_mixed :
    mixedTree.IsCompiled ∧
      ∃ source, mixedTree.program Settings.default = .ok source ∧
        ∀ {σ Figure Grid Axis : Type} (canvas : Canvas Float σ Figure Grid Axis) (state : σ),
          Follows mixedTree Settings.default source canvas state ∧
            ∃ calls,
              mixedTree.draw Settings.default canvas.traced (state, []) =
                  onState (fun after => (after, calls))
                    (mixedTree.draw Settings.default canvas state) ∧
                replay source.toList canvas.traced (state, []) =
                  onState (fun after => (after, calls)) (replay source.toList canvas state) := by
  have compiled : mixedTree.IsCompiled :=
    ⟨[['A', 'A', 'C'], ['B', '.', 'C']], '.', mixed, Settings.default, ofLines_mixed, by decide,
      by decide, partition_mixed⟩
  exact ⟨compiled, replay_follows_draw (Or.inr compiled) Settings.default⟩

end Replay
end Program
end Mosaic
