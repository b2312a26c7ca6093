import Automaton.Host.Basic
import Mathlib.Logic.Function.Basic

/-!
# Disks on which anything may go wrong

A `Disk` is a host for reasoning about failures.  It maps places to the contents of files, and paths
lead to places in any way whatsoever, so two paths may lead to one place.

Operations come to grief according to a *schedule*, which may spoil any of them and is not known to
the command.  An operation that comes to grief leaves the files as they were, except that a file
that was being written is left with as much of its contents as the schedule says.  The one
operation that the schedule does not touch is the removal of a file that is there.

For each operation there is one lemma that says everything that can come of it, and why it fails if
it does: `read_cases`, `create_cases`, `write_cases`, `rename_cases` and `run_remove`.
-/

namespace Automaton

/-- **The files of a disk**, by place. -/
abbrev Files (Place : Type) := Place → Option ByteArray

/-- **A disk**: its files, and how many operations it has seen. -/
structure Disk (Place : Type) where
  /-- The files. -/
  files : Files Place
  /-- The number of operations so far. -/
  clock : Nat

/-- **A mishap** of an operation. -/
structure Mishap where
  /-- What is reported. -/
  fault : FileFault
  /-- How many bytes have been written before. -/
  kept : Nat

/-- **What goes wrong when**: the mishaps of operations, by the number of operations before. -/
abbrev Schedule := Nat → Option Mishap

/-- **A quiet schedule**: nothing goes wrong. -/
def Schedule.Quiet (schedule : Schedule) : Prop :=
  ∀ clock, schedule clock = none

/-- A mishap disturbs the quiet. -/
theorem Schedule.not_quiet {schedule : Schedule} {clock : Nat} {m : Mishap}
    (h : schedule clock = some m) : ¬ schedule.Quiet := fun hquiet =>
  absurd (h.symm.trans (hquiet clock)) (Option.some_ne_none m)

/-- **Going on** after a program whose outcome is known. -/
theorem run_bind_eq {σ α β : Type} {x : StateM σ α} {s s' : σ} {a : α} (h : x.run s = (a, s'))
    (f : α → StateM σ β) : (x >>= f).run s = (f a).run s' := by
  rw [StateT.run_bind, h]
  rfl

namespace Disk

variable {Place : Type} {α : Type}

/-- **An operation** on the files, or what a mishap makes of them. -/
def operate (schedule : Schedule) (spoiled : Mishap → Files Place → Files Place)
    (operation : Files Place → Except FileFault α × Files Place) :
    StateM (Disk Place) (Except FileFault α) := fun d =>
  match schedule d.clock with
  | some m => (.error m.fault, ⟨spoiled m d.files, d.clock + 1⟩)
  | none => ((operation d.files).1, ⟨(operation d.files).2, d.clock + 1⟩)

/-- A mishap that leaves the files alone. -/
def harmless (_ : Mishap) (files : Files Place) : Files Place := files

variable [DecidableEq Place]

/-- Reads a file. -/
def readAt (place : Place) (files : Files Place) : Except FileFault ByteArray × Files Place :=
  match files place with
  | some contents => (.ok contents, files)
  | none => (.error .missing, files)

/-- Makes an empty file where there was none. -/
def createAt (place : Place) (files : Files Place) : Except FileFault Unit × Files Place :=
  match files place with
  | some _ => (.error .present, files)
  | none => (.ok (), Function.update files place (some ByteArray.empty))

/-- Fills a file. -/
def writeAt (place : Place) (contents : ByteArray) (files : Files Place) :
    Except FileFault Unit × Files Place :=
  match files place with
  | some _ => (.ok (), Function.update files place (some contents))
  | none => (.error .missing, files)

/-- Fills a file in part. -/
def truncatedAt (place : Place) (contents : ByteArray) (m : Mishap) (files : Files Place) :
    Files Place :=
  match files place with
  | some _ => Function.update files place (some (contents.extract 0 m.kept))
  | none => files

/-- Moves a file, in the place of one that may be there. -/
def renameAt (source target : Place) (files : Files Place) : Except FileFault Unit × Files Place :=
  match files source with
  | some contents =>
    (.ok (), Function.update (Function.update files source none) target (some contents))
  | none => (.error .missing, files)

/-- Removes a file. -/
def removeAt (place : Place) (files : Files Place) : Except FileFault Unit × Files Place :=
  match files place with
  | some _ => (.ok (), Function.update files place none)
  | none => (.error .missing, files)

/-- **A disk as a host**, with given places for paths and a given schedule. -/
def host (place : String → Place) (schedule : Schedule) (home : Option String) (run : Nat)
    (tools : Toolbox) : Host (StateM (Disk Place)) where
  read path := operate schedule harmless (readAt (place path))
  isPresent path := fun d =>
    ((schedule d.clock).isNone && (d.files (place path)).isSome, ⟨d.files, d.clock + 1⟩)
  create path := operate schedule harmless (createAt (place path))
  write path contents :=
    operate schedule (truncatedAt (place path) contents) (writeAt (place path) contents)
  rename source target := operate schedule harmless (renameAt (place source) (place target))
  remove path := fun d =>
    ((removeAt (place path) d.files).1, ⟨(removeAt (place path) d.files).2, d.clock + 1⟩)
  home
  run
  tools

/-! ### What comes of operations -/

section Cases

variable (place : String → Place) (schedule : Schedule) (home : Option String) (run : Nat)
  (tools : Toolbox) (d : Disk Place)

/-- **Reading** changes no file; it fails, or what is read is there. -/
theorem read_cases (path : String) :
    (∃ f d', ((host place schedule home run tools).read path).run d = (.error f, d') ∧
      d'.files = d.files ∧ (schedule.Quiet → d.files (place path) = none)) ∨
    ∃ contents d', ((host place schedule home run tools).read path).run d = (.ok contents, d') ∧
      d'.files = d.files ∧ d.files (place path) = some contents := by
  show (∃ f d', operate schedule harmless (readAt (place path)) d = (.error f, d') ∧ _) ∨
    ∃ contents d', operate schedule harmless (readAt (place path)) d = (.ok contents, d') ∧ _
  unfold operate readAt
  -- a mishap changes nothing here, and without one the file decides
  cases hmishap : schedule d.clock with
  | some m =>
    exact .inl ⟨_, _, rfl, rfl, fun hquiet => absurd hquiet (Schedule.not_quiet hmishap)⟩
  | none =>
    cases hfile : d.files (place path) with
    | none => exact .inl ⟨_, _, rfl, rfl, fun _ => rfl⟩
    | some bytes => exact .inr ⟨bytes, _, rfl, rfl, rfl⟩

/-- **Creating** fails and changes nothing, or there was no file and now there is an empty one. -/
theorem create_cases (path : String) :
    (∃ f d', ((host place schedule home run tools).create path).run d = (.error f, d') ∧
      d'.files = d.files ∧ (schedule.Quiet → d.files (place path) ≠ none)) ∨
    ∃ d', ((host place schedule home run tools).create path).run d = (.ok (), d') ∧
      d.files (place path) = none ∧
      d'.files = Function.update d.files (place path) (some ByteArray.empty) := by
  show (∃ f d', operate schedule harmless (createAt (place path)) d = (.error f, d') ∧ _) ∨
    ∃ d', operate schedule harmless (createAt (place path)) d = (.ok (), d') ∧ _
  unfold operate createAt
  -- nothing is created by a mishap, nor over a file that is there
  cases hmishap : schedule d.clock with
  | some m =>
    exact .inl ⟨_, _, rfl, rfl, fun hquiet => absurd hquiet (Schedule.not_quiet hmishap)⟩
  | none =>
    cases hfile : d.files (place path) with
    | some bytes => exact .inl ⟨_, _, rfl, rfl, fun _ => Option.some_ne_none bytes⟩
    | none => exact .inr ⟨_, rfl, rfl, rfl⟩

/-- **Writing** to a file changes its contents only; if it succeeds, they are the ones asked for. -/
theorem write_cases {path : String} {old : ByteArray} (hfile : d.files (place path) = some old)
    (contents : ByteArray) :
    (∃ f d' left,
      ((host place schedule home run tools).write path contents).run d = (.error f, d') ∧
        d'.files = Function.update d.files (place path) (some left) ∧ ¬ schedule.Quiet) ∨
    ∃ d', ((host place schedule home run tools).write path contents).run d = (.ok (), d') ∧
      d'.files = Function.update d.files (place path) (some contents) := by
  show (∃ f d' left, operate schedule (truncatedAt (place path) contents)
      (writeAt (place path) contents) d = (.error f, d') ∧ _) ∨
    ∃ d', operate schedule (truncatedAt (place path) contents) (writeAt (place path) contents) d =
      (.ok (), d') ∧ _
  unfold operate truncatedAt writeAt
  rw [hfile]
  -- a mishap leaves some of the contents, so the file has changed even then
  cases hmishap : schedule d.clock with
  | some m => exact .inl ⟨_, _, _, rfl, rfl, Schedule.not_quiet hmishap⟩
  | none => exact .inr ⟨_, rfl, rfl⟩

/-- **Renaming** a file fails and changes nothing, or the file has moved. -/
theorem rename_cases {source : String} {contents : ByteArray}
    (hfile : d.files (place source) = some contents) (target : String) :
    (∃ f d', ((host place schedule home run tools).rename source target).run d = (.error f, d') ∧
      d'.files = d.files ∧ ¬ schedule.Quiet) ∨
    ∃ d', ((host place schedule home run tools).rename source target).run d = (.ok (), d') ∧
      d'.files = Function.update (Function.update d.files (place source) none) (place target)
        (some contents) := by
  show (∃ f d', operate schedule harmless (renameAt (place source) (place target)) d =
      (.error f, d') ∧ _) ∨
    ∃ d', operate schedule harmless (renameAt (place source) (place target)) d = (.ok (), d') ∧ _
  unfold operate renameAt
  rw [hfile]
  -- files are renamed in one step, so a mishap leaves both as they were
  cases hmishap : schedule d.clock with
  | some m => exact .inl ⟨_, _, rfl, rfl, Schedule.not_quiet hmishap⟩
  | none => exact .inr ⟨_, rfl, rfl⟩

/-- **Removing** a file that is there succeeds, and removes nothing else. -/
theorem run_remove {path : String} {contents : ByteArray}
    (hfile : d.files (place path) = some contents) :
    ∃ d', ((host place schedule home run tools).remove path).run d = (.ok (), d') ∧
      d'.files = Function.update d.files (place path) none := by
  show ∃ d', ((removeAt (place path) d.files).1,
    (⟨(removeAt (place path) d.files).2, d.clock + 1⟩ : Disk Place)) = (.ok (), d') ∧ _
  unfold removeAt
  rw [hfile]
  exact ⟨_, rfl, rfl⟩

end Cases

end Disk

end Automaton
