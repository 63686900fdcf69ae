/-
When a run has a configuration, and why it has none.

* `mistake_of_convert`: a variable of the environment that is refused is a mistake in a
  value;
* `Unfit`: a value of the wrong kind where it is used before it is checked, or a document
  nested too deeply to be read;
* `load_admitted_or_refused`: in all other cases there are settings that satisfy every
  check, or a mistake in a value is reported.
-/
import LintRepair.Proofs.Config.Layered

namespace LintRepair.Config

open Text Json Utf8

variable {disk : Disk} {dir : Location} {name : String} {bs : Bytes} {t : Text}
  {options : Fields} {environment : Keyed String} {e : Fault}

/-! ### Layers that are refused -/

/-- A variable that is refused is a mistake in a value. -/
lemma mistake_of_convert {value : String} (refused : convert name value = .error e) :
    e.mistake = .value := by
  unfold convert at refused
  split at refused
  iterate 3
    · rw [flag] at refused
      split_ifs at refused
      cases refused
      rfl
  iterate 3
    · rw [whole] at refused
      split at refused <;> cases refused <;> rfl
  · rw [real] at refused
    split at refused <;> cases refused
    rfl
  · cases refused
  · cases refused

lemma mistake_of_ofEnvironment (refused : ofEnvironment environment = .error e) :
    e.mistake = .value := by
  rcases bind_eq_error_iff.mp refused with refused | ⟨_, -, refused⟩
  · obtain ⟨name, -, refused⟩ := exists_of_mapM_eq_error refused
    split at refused
    · rcases bind_eq_error_iff.mp refused with refused | ⟨_, -, refused⟩
      · exact mistake_of_convert refused
      · cases refused
    · cases refused
  · cases refused

/-- What a configuration cannot be made of, although no check refuses it. -/
inductive Unfit (disk : Disk) (dir : Location) (environment : Keyed String)
    (options : Fields) : Fault → Prop
  /-- A document is nested too deeply. -/
  | deep {name : String} {up : Location} {bs : Bytes} {t : Text}
      (either : name ∈ [projectFileName, plainFileName])
      (nearest : Nearest disk name dir up bs) (text : decode bs = .ok t)
      (fault : Toml.read t = .error .tooDeep) : Unfit disk dir environment options .tooDeep
  /-- What stands for the tables of the tools is no table. -/
  | tools {project : Fields} {v : Value} (document : Document disk projectFileName dir project)
      (found : Fields.get? project "tool" = some v) (other : v.kind ≠ "dict") :
      Unfit disk dir environment options (.lacks v.kind "get")
  /-- What stands for the table of this program is no table. -/
  | own {project tools : Fields} {v : Value}
      (document : Document disk projectFileName dir project)
      (table : Fields.get? project "tool" = some (.object tools))
      (found : Fields.get? tools "jsmend" = some v) (other : v.kind ≠ "dict") :
      Unfit disk dir environment options (.lacks v.kind "items")
  /-- The command that counts is no text. -/
  | command {value? : String → Option Value} {v : Value}
      (layers : FromLayers disk dir environment options value?)
      (found : value? "relint_command" = some v) (other : v.kind ∉ ["NoneType", "str"]) :
      Unfit disk dir environment options (.lacks v.kind "strip")

lemma mistake_of_fileText (refused : fileText bs = .error e) : e.mistake = .value := by
  rw [fileText] at refused
  cases decoding : decode bs with
  | error fault =>
      rw [decoding] at refused
      cases refused
      rfl
  | ok t =>
      rw [decoding] at refused
      cases refused

/-- A document that is refused has a number that is too long, or is nested too deeply. -/
lemma mistake_of_documentFields (refused : documentFields t = .error e) :
    e.mistake = .value ∨ Toml.read t = .error .tooDeep ∧ e = .tooDeep := by
  rw [documentFields] at refused
  split at refused
  · cases refused
  · cases refused
  · cases refused
    exact .inl rfl
  · next fault =>
    cases refused
    exact .inr ⟨fault, rfl⟩

lemma kind_ne_dict {v : Value} (other : ∀ fs, v = .object fs → False) : v.kind ≠ "dict" := by
  cases v with
  | object fs => exact (other fs rfl).elim
  | moment form => cases form <;> simp [Value.kind]
  | null | bool | int | float | string | array => simp [Value.kind]

/-- What stands for a table that may be missing. -/
lemma get?_eq_some_of_getD {fs : Fields} {key : String} {v : Value}
    (stands : (Fields.get? fs key).getD (.object []) = v) (other : v.kind ≠ "dict") :
    Fields.get? fs key = some v := by
  cases found : Fields.get? fs key with
  | none =>
      rw [found] at stands
      cases stands
      exact absurd rfl other
  | some v' =>
      rw [found] at stands
      exact congrArg some stands

lemma mistake_of_plainLayer (refused : plainLayer disk dir = .error e) :
    e.mistake = .value ∨ Unfit disk dir environment options e := by
  rw [plainLayer] at refused
  split at refused
  · next found =>
    obtain ⟨up, nearest⟩ := nearest_of_nearest? found
    rcases bind_eq_error_iff.mp refused with refused | ⟨t, text, refused⟩
    · exact .inl (mistake_of_fileText refused)
    have decoded := decode_of_fileText text
    cases read : documentFields t with
    | ok fs => simp [ofPlainFile, read, Except.map] at refused
    | error e' =>
        rw [ofPlainFile, read] at refused
        cases refused
        rcases mistake_of_documentFields read with mistake | ⟨fault, rfl⟩
        · exact .inl mistake
        · exact .inr (.deep (by simp) nearest decoded fault)
  · cases refused

lemma mistake_of_projectLayer (refused : projectLayer disk dir = .error e) :
    e.mistake = .value ∨ Unfit disk dir environment options e := by
  rw [projectLayer] at refused
  split at refused
  · next found =>
    obtain ⟨up, nearest⟩ := nearest_of_nearest? found
    rcases bind_eq_error_iff.mp refused with refused | ⟨t, text, refused⟩
    · exact .inl (mistake_of_fileText refused)
    rcases bind_eq_error_iff.mp refused with refused | ⟨project, read, refused⟩
    · rcases mistake_of_documentFields refused with mistake | ⟨fault, rfl⟩
      · exact .inl mistake
      · exact .inr (.deep (by simp) nearest (decode_of_fileText text) fault)
    have document := document_of_documentFields nearest text read
    split at refused
    · next tools table =>
      split at refused
      · cases refused
      · next other =>
        cases refused
        have found := get?_eq_some_of_getD rfl (kind_ne_dict other)
        cases tool : Fields.get? project "tool" with
        | none =>
            rw [tool] at table
            cases table
            cases found
        | some v =>
            rw [tool] at table
            cases table
            exact .inr (.own document tool found (kind_ne_dict other))
    · next other =>
      cases refused
      exact .inr (.tools document (get?_eq_some_of_getD rfl (kind_ne_dict other)) (kind_ne_dict other))
  · cases refused

/-- **Settings or a mistake in a value.** In any place, with any variables and options,
either there are settings, which satisfy every check, or what is reported is a mistake in
a value, unless a value of the wrong kind stands where the tables of a project file or
the command are used. -/
theorem load_admitted_or_refused (disk : Disk) (dir : Location) (environment : Keyed String)
    (dictionary : options.Distinct) :
    (∃ s, load disk dir environment options = .ok s ∧ Admitted s) ∨
      ∃ e, load disk dir environment options = .error e ∧
        (e.mistake = .value ∨ Unfit disk dir environment options e) := by
  cases run : load disk dir environment options with
  | ok s =>
      obtain ⟨fs, -, made⟩ := exists_of_bind_eq_ok run
      exact .inl ⟨s, rfl, (of_ofFields made).1⟩
  | error e =>
      refine .inr ⟨e, rfl, ?_⟩
      rcases bind_eq_error_iff.mp run with refused | ⟨fs, layers, refused⟩
      · rw [merged_eq] at refused
        rcases bind_eq_error_iff.mp refused with refused | ⟨_, -, refused⟩
        · exact mistake_of_projectLayer refused
        rcases bind_eq_error_iff.mp refused with refused | ⟨_, -, refused⟩
        · exact mistake_of_plainLayer refused
        rcases bind_eq_error_iff.mp refused with refused | ⟨_, -, refused⟩
        · exact .inl (mistake_of_ofEnvironment refused)
        · cases refused
      · obtain ⟨values, within⟩ := fromLayers_of_merged dictionary layers
        rcases mistake_of_ofFields refused with mistake | ⟨f, among, unknown⟩ |
          ⟨v, found, other, rfl⟩
        · exact .inl mistake
        · exact absurd (within f among) unknown
        · exact .inr (.command values found other)

/-- A plain file that makes a number the command. -/
def numberedCommand : Disk :=
  { files := [([".jsmendrc"], "relint_command = 5\n".toList.map fun c => c.toNat.toUInt8)] }

lemma load_numberedCommand :
    load numberedCommand [] [] [] = .error (.lacks "int" "strip") := by
  have refused : (match load numberedCommand [] [] [] with
      | .ok _ => none
      | .error e => some e) = some (Fault.lacks "int" "strip") := by decide +kernel
  split at refused
  · cases refused
  · next run => rw [run, Option.some.inj refused]

/-- The command is used before it is known to be a text. -/
theorem load_admitted_or_refused_numberedCommand :
    Keyed.Distinct ([] : Fields) ∧ ∃ e, load numberedCommand [] [] [] = .error e ∧
      Unfit numberedCommand [] [] [] e := by
  have distinct : Keyed.Distinct ([] : Fields) := by decide
  refine ⟨distinct, ?_⟩
  obtain ⟨s, run, -⟩ | ⟨e, run, value | unfit⟩ :=
    load_admitted_or_refused numberedCommand [] [] distinct
  · rw [load_numberedCommand] at run
    cases run
  · rw [load_numberedCommand] at run
    cases run
    cases value
  · exact ⟨e, run, unfit⟩

/-- Not every refusal is a mistake in a value. -/
theorem load_admitted_or_mistake_not :
    ¬ ∀ (disk : Disk) (dir : Location) (environment : Keyed String) (options : Fields),
      options.Distinct →
      (∃ s, load disk dir environment options = .ok s ∧ Admitted s) ∨
        ∃ e, load disk dir environment options = .error e ∧ e.mistake = .value := by
  intro all
  obtain ⟨s, run, -⟩ | ⟨e, run, value⟩ := all numberedCommand [] [] [] (by decide)
  · rw [load_numberedCommand] at run
    cases run
  · rw [load_numberedCommand] at run
    cases run
    cases value

end LintRepair.Config
