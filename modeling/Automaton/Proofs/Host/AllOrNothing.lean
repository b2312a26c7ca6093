import Automaton.Commands
import Automaton.Proofs.Host.Disk

/-!
# All or nothing

Whatever goes wrong while a source is generated, the disk is in the end as it was, or it has the new
source at its destination and is otherwise as it was (`Host.generate_all_or_nothing`).

Until the destination is replaced, a command only reads.  So the argument is about
`Host.replaceFile`, and there it follows the temporary file:

* if it cannot be made, nothing has happened; in particular a file that has its name already is
  someone else's, and stays;
* once it has been made, there was no file in its place before.  If it cannot be filled or moved, it
  is removed again, and that leads back to where things began (`Disk.replaceFile_cases`);
* if it has been moved, its place is empty as before, and the destination has the text.

There is a reason for every failure: if nothing goes wrong, the text is delivered unless the
destination has no name or the name of the temporary file is taken (`Host.generate_succeeds`).
-/

namespace Automaton

/-- **The table of a file** that is in some place: its contents are a text, which is decoded. -/
def LoadedFrom {Place : Type} (files : Files Place) (source : Place) (path : String)
    (l : Table.Loaded) : Prop :=
  ∃ bytes text, files source = some bytes ∧ Utf8.decode bytes.toList = .ok text ∧
    Table.Loaded.ofText path text = .ok l

/-- A file has one table. -/
theorem LoadedFrom.unique {Place : Type} {files : Files Place} {source : Place} {path : String}
    {l l' : Table.Loaded} (h : LoadedFrom files source path l)
    (h' : LoadedFrom files source path l') : l = l' := by
  obtain ⟨bytes, text, hbytes, hdecode, hl⟩ := h
  obtain ⟨bytes', text', hbytes', hdecode', hl'⟩ := h'
  obtain rfl := Option.some.inj (hbytes.symm.trans hbytes')
  obtain rfl := Except.ok.inj (hdecode.symm.trans hdecode')
  exact Except.ok.inj (hl.symm.trans hl')

namespace Disk

variable {Place : Type} [DecidableEq Place] (place : String → Place) (schedule : Schedule)
  (home : Option String) (run : Nat) (tools : Toolbox) (d : Disk Place)

/-! ### Replacing a file -/

/-- **Delivering** fails with the temporary file in any condition, or the file has moved. -/
theorem deliver_cases {temporary : String} {old : ByteArray}
    (hfile : d.files (place temporary) = some old) (path : String) (contents : ByteArray) :
    (∃ f d' left,
      ((host place schedule home run tools).deliver temporary path contents).run d =
          (.error f, d') ∧
        d'.files = Function.update d.files (place temporary) (some left) ∧ ¬ schedule.Quiet) ∨
    ∃ d', ((host place schedule home run tools).deliver temporary path contents).run d =
        (.ok (), d') ∧
      d'.files = Function.update (Function.update d.files (place temporary) none) (place path)
        (some contents) := by
  unfold Host.deliver
  rcases write_cases place schedule home run tools d hfile contents with
    ⟨f, d₁, left, hwrite, hleft, hmishap⟩ | ⟨d₁, hwrite, hfull⟩
  · -- writing failed: whatever was written is left
    rw [run_bind_eq hwrite]
    exact .inl ⟨f, d₁, left, rfl, hleft, hmishap⟩
  · rw [run_bind_eq hwrite]
    have hfile₁ : d₁.files (place temporary) = some contents := by
      rw [hfull, Function.update_self]
    rcases rename_cases place schedule home run tools d₁ hfile₁ path with
      ⟨f, d₂, hrename, hsame, hmishap⟩ | ⟨d₂, hrename, hmoved⟩
    · -- renaming failed: everything was written and is left
      exact .inl ⟨f, d₂, contents, hrename, hsame.trans hfull, hmishap⟩
    · -- what was written has moved, and what was there before it plays no part
      refine .inr ⟨d₂, hrename, ?_⟩
      rw [hmoved, hfull, Function.update_idem]

/-- **A replacement can be made** if the destination is named and nobody uses the name of the
temporary file. -/
def Replaceable (path : String) : Prop :=
  ∃ temporary, Path.renamed? path (temporaryName run) = some temporary ∧
    d.files (place temporary) = none

/-- **Replacing a file** fails and leaves all files as they were, or the text is at its destination
and all other files are as they were.  If nothing goes wrong, it fails only if the replacement
cannot be made. -/
theorem replaceFile_cases (path text : String) :
    (∃ e d', ((host place schedule home run tools).replaceFile path text).run d = (.error e, d') ∧
      d'.files = d.files ∧ (schedule.Quiet → ¬ Replaceable place run d path)) ∨
    ∃ d', ((host place schedule home run tools).replaceFile path text).run d = (.ok (), d') ∧
      d'.files = Function.update d.files (place path) (some text.toUTF8) := by
  unfold Host.replaceFile Replaceable
  rw [show (host place schedule home run tools).run = run from rfl]
  cases Path.renamed? path (temporaryName run) with
  | none =>
    -- no operation is tried at all
    exact .inl ⟨_, d, rfl, rfl, fun _ => nofun⟩
  | some temporary =>
    dsimp only
    rcases create_cases place schedule home run tools d temporary with
      ⟨f, d₁, hcreate, hsame, hpresent⟩ | ⟨d₁, hcreate, hfree, hmade⟩
    · -- the temporary file was not made, and nothing is removed
      rw [run_bind_eq hcreate]
      refine .inl ⟨_, d₁, rfl, hsame, fun hquiet => ?_⟩
      rintro ⟨_, heq, hnone⟩
      obtain rfl := Option.some.inj heq
      exact hpresent hquiet hnone
    · rw [run_bind_eq hcreate]
      dsimp only
      have hfile₁ : d₁.files (place temporary) = some ByteArray.empty := by
        rw [hmade, Function.update_self]
      rcases deliver_cases place schedule home run tools d₁ hfile₁ path text.toUTF8 with
        ⟨f, d₂, left, hdeliver, hleft, hmishap⟩ | ⟨d₂, hdeliver, hmoved⟩
      · have hfile₂ : d₂.files (place temporary) = some left := by
          rw [hleft, Function.update_self]
        obtain ⟨d₃, hremove, hgone⟩ := run_remove place schedule home run tools d₂ hfile₂
        refine .inl ⟨f.error, d₃, ?_, ?_, fun hquiet => absurd hquiet hmishap⟩
        · rw [run_bind_eq hdeliver]
          exact run_bind_eq hremove _
        · -- the place of the temporary file is empty, as it was
          calc d₃.files = Function.update d₂.files (place temporary) none := hgone
            _ = Function.update d.files (place temporary) none := by
              rw [hleft, hmade, Function.update_idem, Function.update_idem]
            _ = d.files := by rw [← hfree, Function.update_eq_self]
      · refine .inr ⟨d₂, ?_, ?_⟩
        · rw [run_bind_eq hdeliver]
          rfl
        · -- so is it here, and the destination has the text
          rw [hmoved, hmade, Function.update_idem, ← hfree, Function.update_eq_self]

/-! ### Loading a table -/

/-- **Reading a text** changes no file; it fails, or the text is that of the file that is there. -/
theorem readText_cases (path : String) :
    (∃ f d', ((host place schedule home run tools).readText path).run d = (.error f, d') ∧
      d'.files = d.files ∧ (schedule.Quiet → ∀ bytes text, d.files (place path) = some bytes →
        Utf8.decode bytes.toList ≠ .ok text)) ∨
    ∃ bytes text d',
      ((host place schedule home run tools).readText path).run d = (.ok text, d') ∧
        d'.files = d.files ∧ d.files (place path) = some bytes ∧
        Utf8.decode bytes.toList = .ok text := by
  unfold Host.readText
  -- the file may be missing, or hold bytes that are no text
  rcases read_cases place schedule home run tools d path with
    ⟨f, d₁, hread, hsame, hmissing⟩ | ⟨bytes, d₁, hread, hsame, hthere⟩
  · rw [run_bind_eq hread]
    refine .inl ⟨f, d₁, rfl, hsame, fun hquiet bytes _ hbytes => ?_⟩
    exact absurd (hbytes.symm.trans (hmissing hquiet)) (Option.some_ne_none bytes)
  · rw [run_bind_eq hread, hthere]
    dsimp only
    cases hdecode : Utf8.decode bytes.toList with
    | error fault =>
      refine .inl ⟨_, d₁, rfl, hsame, fun _ bytes' text hbytes => ?_⟩
      obtain rfl := Option.some.inj hbytes
      rw [hdecode]
      nofun
    | ok text => exact .inr ⟨bytes, text, d₁, rfl, hsame, rfl, hdecode⟩

/-- **Loading a table** changes no file; it fails, or what is loaded is the table of the file that
is there. -/
theorem load_cases (path : String) :
    (∃ e d', (Table.load (host place schedule home run tools) path).run d = (.error e, d') ∧
      d'.files = d.files ∧ (schedule.Quiet → ∀ l, ¬ LoadedFrom d.files (place path) path l)) ∨
    ∃ l d', (Table.load (host place schedule home run tools) path).run d = (.ok l, d') ∧
      d'.files = d.files ∧ LoadedFrom d.files (place path) path l := by
  unfold Table.load
  rcases readText_cases place schedule home run tools d path with
    ⟨f, d₁, hread, hsame, hnotext⟩ | ⟨bytes, text, d₁, hread, hsame, hbytes, hdecode⟩
  · rw [run_bind_eq hread]
    refine .inl ⟨f.error, d₁, rfl, hsame, ?_⟩
    rintro hquiet l ⟨bytes, text, hbytes, hdecode, -⟩
    exact hnotext hquiet bytes text hbytes hdecode
  · rw [run_bind_eq hread]
    cases hl : Table.Loaded.ofText path text with
    | ok l => exact .inr ⟨l, d₁, congrArg (·, d₁) hl, hsame, bytes, text, hbytes, hdecode, hl⟩
    | error e =>
      refine .inl ⟨e, d₁, congrArg (·, d₁) hl, hsame, ?_⟩
      -- no table is loaded from another text, as there is no other in the file
      rintro - l ⟨bytes', text', hbytes', hdecode', hl'⟩
      obtain rfl := Option.some.inj (hbytes.symm.trans hbytes')
      obtain rfl := Except.ok.inj (hdecode.symm.trans hdecode')
      exact absurd (hl.symm.trans hl') nofun

end Disk

/-! ### Generating a source -/

/-- The source of a loaded table is what the generator makes of it, if it is valid. -/
theorem GenerateOptions.source_eq_ok_iff {o : GenerateOptions} {s : Settings} {tools : Toolbox}
    {l : Table.Loaded} {text : String} :
    o.source s tools l = .ok text ↔ l.table.validate = .ok () ∧ ∃ f, o.formatter s = .ok f ∧
      (⟨o.language s, f, if s.generation.digest then some l.digest else none⟩ : Generator).run
        tools l.table = .ok text := by
  unfold GenerateOptions.source Table.Loaded.checked
  -- the table is checked first, then the formatter is found, then all the rest is done
  cases l.table.validate with
  | error v => exact iff_of_false nofun nofun
  | ok u =>
    show (o.formatter s >>= fun f => _) = _ ↔ _
    cases o.formatter s with
    | error e => exact iff_of_false nofun (by rintro ⟨-, f, hf, -⟩; cases hf)
    | ok f =>
      constructor
      · exact fun htext => ⟨rfl, f, rfl, htext⟩
      · rintro ⟨-, f', hf, htext⟩
        cases hf
        exact htext

/-- **All or nothing.**  Whatever is on the disk, whatever the formatter does, and whatever
operation comes to grief: if generating a source fails, all files are as they were.  If it
succeeds, the text is what the generator makes of the table that was there; either it is printed,
and all files are as they were, or it is at its destination, and all other files are as they were.
-/
theorem Host.generate_all_or_nothing {Place : Type} [DecidableEq Place] (place : String → Place)
    (schedule : Schedule) (home : Option String) (run : Nat) (tools : Toolbox) (s : Settings)
    (o : GenerateOptions) (d : Disk Place) :
    ∃ response d',
      ((Disk.host place schedule home run tools).generate s o).run d = (response, d') ∧
        (∀ e, response.result = .error e → response.printed = "" ∧ d'.files = d.files) ∧
        (response.result = .ok () → ∃ l f text,
          LoadedFrom d.files (place (o.tableFile s)) (o.tableFile s) l ∧
          l.table.validate = .ok () ∧ o.formatter s = .ok f ∧
          (⟨o.language s, f, if s.generation.digest then some l.digest else none⟩ : Generator).run
            tools l.table = .ok text ∧
          if o.printed then response.printed = text ∧ d'.files = d.files
          else response.printed = "" ∧
            d'.files = Function.update d.files (place (o.sourceFile s)) (some text.toUTF8)) := by
  unfold Host.generate
  rcases Disk.load_cases place schedule home run tools d (o.tableFile s) with
    ⟨e, d₁, hload, hsame, -⟩ | ⟨l, d₁, hload, hsame, hloaded⟩
  · rw [run_bind_eq hload]
    exact ⟨_, d₁, rfl, fun _ _ => ⟨rfl, hsame⟩, nofun⟩
  · rw [run_bind_eq hload]
    dsimp only
    cases hsource : o.source s (Disk.host place schedule home run tools).tools l with
    | error e => exact ⟨_, d₁, rfl, fun _ _ => ⟨rfl, hsame⟩, nofun⟩
    | ok text =>
      obtain ⟨hvalid, f, hformatter, htext⟩ := GenerateOptions.source_eq_ok_iff.mp hsource
      dsimp only
      split
      · -- the text is printed, and nothing was written
        exact ⟨_, d₁, rfl, nofun, fun _ =>
          ⟨l, f, text, hloaded, hvalid, hformatter, htext, rfl, hsame⟩⟩
      · -- only now is anything written
        rcases Disk.replaceFile_cases place schedule home run tools d₁ (o.sourceFile s) text with
          ⟨e, d₂, hreplace, hsame₂, -⟩ | ⟨d₂, hreplace, hreplaced⟩
        · rw [run_bind_eq hreplace]
          exact ⟨_, d₂, rfl, fun _ _ => ⟨rfl, hsame₂.trans hsame⟩, nofun⟩
        · rw [run_bind_eq hreplace]
          refine ⟨_, d₂, rfl, nofun, fun _ => ?_⟩
          exact ⟨l, f, text, hloaded, hvalid, hformatter, htext, rfl, hsame ▸ hreplaced⟩

/-- **Generating succeeds** if nothing goes wrong, a table is loaded that has a source, and the
source is printed or can replace the destination. -/
theorem Host.generate_succeeds {Place : Type} [DecidableEq Place] (place : String → Place)
    {schedule : Schedule} (hquiet : schedule.Quiet) (home : Option String) (run : Nat)
    (tools : Toolbox) (s : Settings) (o : GenerateOptions) (d : Disk Place) {l : Table.Loaded}
    (hloaded : LoadedFrom d.files (place (o.tableFile s)) (o.tableFile s) l) {text : String}
    (hsource : o.source s tools l = .ok text)
    (hfree : o.printed = false → Disk.Replaceable place run d (o.sourceFile s)) :
    ∃ printed d', ((Disk.host place schedule home run tools).generate s o).run d =
      (⟨printed, .ok ()⟩, d') := by
  unfold Host.generate
  rcases Disk.load_cases place schedule home run tools d (o.tableFile s) with
    ⟨e, d₁, hload, -, hnone⟩ | ⟨l', d₁, hload, hsame, hloaded'⟩
  · exact absurd hloaded (hnone hquiet l)
  · obtain rfl := LoadedFrom.unique hloaded' hloaded
    rw [run_bind_eq hload]
    dsimp only
    rw [show (Disk.host place schedule home run tools).tools = tools from rfl, hsource]
    dsimp only
    split
    · exact ⟨text, d₁, rfl⟩
    · next hprinted =>
      rcases Disk.replaceFile_cases place schedule home run tools d₁ (o.sourceFile s) text with
        ⟨e, d₂, -, -, hnot⟩ | ⟨d₂, hreplace, -⟩
      · -- the disk is the same as before the table was loaded
        have hfree₁ : Disk.Replaceable place run d₁ (o.sourceFile s) := by
          unfold Disk.Replaceable
          rw [hsame]
          exact hfree (Bool.not_eq_true _ ▸ hprinted)
        exact absurd hfree₁ (hnot hquiet)
      · rw [run_bind_eq hreplace]
        exact ⟨"", d₂, rfl⟩

end Automaton
