import Mathlib.Data.List.Induction
import PluginLisp.Proofs.Tracing

/-!
Decorations of errors. On its way out an error is given frames, for the calls that it passes through,
and names of files, for the files that are being run. No sequence of decorations hides the error
itself. The frames are those of the outermost trace only, and a file ends a trace: so they are all
that were pushed exactly if no file came between two of them, and otherwise those since the last file
before a frame.

Main result: `decorations_keep_root`.
-/

namespace PluginLisp

/-- What is put around an error: a call that it passes through, or the file that it comes from. -/
inductive Decoration where
  | frame (f : CallFrame)
  | file (path : String)
deriving DecidableEq, Repr

namespace Decoration

/-- The frame that a decoration pushes. -/
def frame? : Decoration → Option CallFrame
  | frame f => some f
  | file _ => none

/-- The frames that decorations push, in their order. -/
def pushed (ds : List Decoration) : List CallFrame := ds.filterMap frame?

/-- No file comes between two frames. -/
def Unbroken (ds : List Decoration) : Prop :=
  ∀ f path g, ¬ [frame f, file path, frame g].Sublist ds

section

variable {ds : List Decoration} {d : Decoration} {f g : CallFrame} {path : String}

/-- A frame that is added last comes last. -/
@[simp] theorem pushed_concat_frame : pushed (ds ++ [frame f]) = pushed ds ++ [f] := by
  simp [pushed, frame?]

@[simp] theorem pushed_concat_file : pushed (ds ++ [file path]) = pushed ds := by
  simp [pushed, frame?]

theorem pushed_eq_nil_iff : pushed ds = [] ↔ ∀ f, frame f ∉ ds := by
  rw [pushed, List.filterMap_eq_nil_iff]
  constructor
  · exact fun none f member => nomatch none _ member
  · intro none d member
    cases d with
    | frame f => exact absurd member (none f)
    | file path => rfl

/-- The last item of a list that can be found in another one is found in front or at the end. -/
theorem concat_sublist_concat_iff {xs : List Decoration} {c : Decoration} :
    (xs ++ [c]).Sublist (ds ++ [d]) ↔ (xs ++ [c]).Sublist ds ∨ c = d ∧ xs.Sublist ds := by
  rw [← List.reverse_sublist, List.reverse_concat, List.reverse_concat, List.cons_sublist_cons',
    ← List.reverse_concat, List.reverse_sublist, List.reverse_sublist]

theorem sublist_concat_iff :
    [frame f, file path, frame g].Sublist (ds ++ [d]) ↔
      [frame f, file path, frame g].Sublist ds ∨
        frame g = d ∧ [frame f, file path].Sublist ds :=
  @concat_sublist_concat_iff _ _ [frame f, file path] _

theorem unbroken_nil : Unbroken [] := fun _ _ _ found => nomatch List.sublist_nil.1 found

/-- A file at the end does not break the frames. -/
theorem unbroken_concat_file : Unbroken (ds ++ [file path]) ↔ Unbroken ds := by
  simp [Unbroken, sublist_concat_iff]

theorem unbroken_frame : Unbroken [frame f] := by
  intro _ _ _ found
  simpa using found.length_le

/-- A frame behind a frame is in no new trace. -/
theorem unbroken_concat_frame_frame :
    Unbroken (ds ++ [frame f] ++ [frame g]) ↔ Unbroken (ds ++ [frame f]) := by
  constructor
  · exact fun unbroken a path b found => unbroken a path b (found.trans (List.sublist_append_left _ _))
  · intro unbroken a path b found
    rcases sublist_concat_iff.1 found with before | ⟨-, pair⟩
    · exact unbroken a path b before
    · -- the frame in front ends what the new one would
      have shorter : [frame a, file path].Sublist ds := by
        rcases (@concat_sublist_concat_iff _ _ [frame a] _).1 pair with shorter | ⟨other, -⟩
        · exact shorter
        · cases other
      exact unbroken a path f (shorter.append (List.Sublist.refl [frame f]))

/-- A frame behind a file starts a new trace. -/
theorem unbroken_concat_file_frame :
    Unbroken (ds ++ [file path] ++ [frame g]) ↔ pushed ds = [] := by
  rw [pushed_eq_nil_iff]
  constructor
  · intro unbroken f member
    refine unbroken f path g ?_
    have single : [frame f].Sublist ds := List.singleton_sublist.2 member
    exact (single.append (List.Sublist.refl [file path])).append (List.Sublist.refl [frame g])
  · intro none f path' g' found
    have member : frame f ∈ ds ++ [file path] := by
      rcases sublist_concat_iff.1 found with before | ⟨-, before⟩
      · exact before.subset List.mem_cons_self
      · exact before.subset List.mem_cons_self
    refine none f ?_
    simpa using member

end

end Decoration

namespace Error

/-- The error as it arose, without any decoration. -/
def IsBare (e : Error) : Prop :=
  (∀ path cause, e ≠ inFile path cause) ∧ ∀ cause frames, e ≠ traced cause frames

/-- Puts a decoration around an error. -/
def decorate (e : Error) : Decoration → Error
  | .frame f => e.withFrame f
  | .file path => inFile path e

/-- Puts decorations around an error, one after the other. -/
def decorateAll (e : Error) (ds : List Decoration) : Error := ds.foldl decorate e

section

variable {e : Error} {ds more : List Decoration} {f g : CallFrame} {path : String}

theorem decorateAll_append : e.decorateAll (ds ++ more) = (e.decorateAll ds).decorateAll more :=
  List.foldl_append

theorem decorateAll_concat_frame : e.decorateAll (ds ++ [.frame f]) = (e.decorateAll ds).withFrame f :=
  decorateAll_append

theorem decorateAll_concat_file : e.decorateAll (ds ++ [.file path]) = inFile path (e.decorateAll ds) :=
  decorateAll_append

/-! ### The root -/

/-- Decorations keep the root of an error. -/
theorem root_decorateAll (e : Error) (ds : List Decoration) : (e.decorateAll ds).root = e.root := by
  induction ds using List.reverseRecOn with
  | nil => rfl
  | append_singleton ds d ih =>
      cases d with
      | frame f => rw [decorateAll_concat_frame, root_withFrame, ih]
      | file path => rw [decorateAll_concat_file, root, ih]

theorem IsBare.root (bare : e.IsBare) : e.root = e := by
  cases e with
  | inFile path cause => exact absurd rfl (bare.1 path cause)
  | traced cause frames => exact absurd rfl (bare.2 cause frames)
  | _ => rfl

/-! ### The frames -/

theorem IsBare.withFrame (bare : e.IsBare) : e.withFrame f = traced e [f] := by
  cases e with
  | traced cause frames => exact absurd rfl (bare.2 cause frames)
  | _ => rfl

theorem IsBare.frames (bare : e.IsBare) : e.frames = [] := by
  cases e with
  | inFile path cause => exact absurd rfl (bare.1 path cause)
  | traced cause frames => exact absurd rfl (bare.2 cause frames)
  | _ => rfl

/-- A frame is added to the trace that the frame before it is in. -/
theorem frames_withFrame_withFrame :
    ((e.withFrame f).withFrame g).frames = (e.withFrame f).frames ++ [g] := by
  cases e <;> rfl

/-- A file ends the trace: the next frame starts another one. -/
theorem frames_inFile_withFrame : ((inFile path e).withFrame f).frames = [f] := rfl

/-- Files alone leave the frames as they are. -/
theorem frames_decorateAll_files (paths : List String) :
    (e.decorateAll (paths.map .file)).frames = e.frames := by
  induction paths generalizing e with
  | nil => rfl
  | cons path paths ih => exact ih

/-- Frames in a row are all in the trace that the first of them is in. -/
theorem frames_decorateAll_frames (last : List CallFrame) :
    ((e.withFrame f).decorateAll (last.map .frame)).frames = (e.withFrame f).frames ++ last := by
  induction last generalizing e f with
  | nil => exact (List.append_nil _).symm
  | cons g last ih =>
      have rest := ih (e := e.withFrame f) (f := g)
      rw [frames_withFrame_withFrame, List.append_assoc] at rest
      exact rest

/-- The frames since the last file before a frame. -/
theorem frames_decorateAll_last (before : List Decoration) {last : List CallFrame}
    (nonempty : last ≠ []) (paths : List String) :
    (e.decorateAll (before ++ .file path :: last.map .frame ++ paths.map .file)).frames = last := by
  obtain ⟨f, last, rfl⟩ := List.exists_cons_of_ne_nil nonempty
  rw [decorateAll_append, frames_decorateAll_files, decorateAll_append]
  exact frames_decorateAll_frames (e := inFile path (e.decorateAll before)) last

/-- The induction is on the last decoration. For a frame it depends on what is before it whether it is
    added to a trace or starts one. -/
theorem frames_decorateAll_eq_pushed_iff (bare : e.IsBare) :
    (e.decorateAll ds).frames = Decoration.pushed ds ↔ Decoration.Unbroken ds := by
  induction ds using List.reverseRecOn with
  | nil => exact iff_of_true bare.frames Decoration.unbroken_nil
  | append_singleton ds d ih =>
      cases d with
      | file path =>
          rw [decorateAll_concat_file, Error.frames, Decoration.pushed_concat_file,
            Decoration.unbroken_concat_file]
          exact ih
      | frame g =>
          rw [decorateAll_concat_frame, Decoration.pushed_concat_frame]
          rcases List.eq_nil_or_concat' ds with rfl | ⟨ds, d, rfl⟩
          · refine iff_of_true ?_ Decoration.unbroken_frame
            exact congrArg Error.frames bare.withFrame
          · cases d with
            | frame f =>
                rw [Decoration.unbroken_concat_frame_frame, ← ih, decorateAll_concat_frame,
                  frames_withFrame_withFrame]
                exact List.append_left_inj [g]
            | file path =>
                rw [Decoration.unbroken_concat_file_frame, decorateAll_concat_file,
                  frames_inFile_withFrame, Decoration.pushed_concat_file]
                exact List.self_eq_append_left

end

/-- Whatever decorations are put around an error, its root is the error itself. Its frames are all those
    that were pushed, innermost first, exactly if no file came between two of them; in any case they are
    those since the last file before a frame. -/
theorem decorations_keep_root {e : Error} (bare : e.IsBare) (ds : List Decoration) :
    (e.decorateAll ds).root = e ∧
    ((e.decorateAll ds).frames = Decoration.pushed ds ↔ Decoration.Unbroken ds) ∧
    ∀ (before : List Decoration) (path : String) (last : List CallFrame) (paths : List String),
      last ≠ [] →
      ds = before ++ .file path :: last.map .frame ++ paths.map .file →
        (e.decorateAll ds).frames = last := by
  refine ⟨?_, frames_decorateAll_eq_pushed_iff bare, ?_⟩
  · rw [root_decorateAll, bare.root]
  · rintro before path last paths nonempty rfl
    exact frames_decorateAll_last before nonempty paths

/-- A division in a file that calls two functions: both frames are in one trace, which the file is put
    around. -/
theorem decorations_keep_root_division :
    let inner : CallFrame := ⟨"ratio", "(ratio 1 0)"⟩
    let outer : CallFrame := ⟨"report", "(report 1)"⟩
    let failure := divisionByZero.decorateAll [.frame inner, .frame outer, .file "a.lisp"]
    divisionByZero.IsBare ∧
      Decoration.Unbroken [.frame inner, .frame outer, .file "a.lisp"] ∧
      failure.root = divisionByZero ∧ failure.frames = [inner, outer] := by
  intro inner outer failure
  have bare : divisionByZero.IsBare := by
    constructor
    · exact fun path cause => nofun
    · exact fun cause frames => nofun
  have kept := decorations_keep_root bare [.frame inner, .frame outer, .file "a.lisp"]
  have unbroken : Decoration.Unbroken [.frame inner, .frame outer, .file "a.lisp"] := kept.2.1.1 rfl
  exact ⟨bare, unbroken, kept.1, kept.2.1.2 unbroken⟩

/-- A call in a file that is itself run by a call: the frame of the inner call is below the file, and so
    it is not among the frames, although it was pushed and is in the text. -/
theorem frames_below_file_missing :
    let inner : CallFrame := ⟨"first", "(first 1)"⟩
    let outer : CallFrame := ⟨"load-file", "(load-file \"a.lisp\")"⟩
    let failure := divisionByZero.decorateAll [.frame inner, .file "a.lisp", .frame outer]
    divisionByZero.IsBare ∧
      Decoration.pushed [.frame inner, .file "a.lisp", .frame outer] = [inner, outer] ∧
      failure.frames = [outer] ∧ failure.frames ≠ [inner, outer] ∧
      failure.message = divisionByZero.message ++
        "\n  at first (first 1) in file a.lisp\n  at load-file (load-file \"a.lisp\")" := by
  refine ⟨?_, rfl, rfl, by decide, by decide +kernel⟩
  constructor
  · exact fun path cause => nofun
  · exact fun cause frames => nofun

end Error

end PluginLisp
