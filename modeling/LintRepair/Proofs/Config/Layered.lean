/-
Which layer a setting is taken from.

* `Nearest`, `Document`: the nearest file of a name on the way up, and its fields;
* `Converted`: what a variable of the environment gives a setting;
* `get?_overlay`: one layer over another; `FromLayers`, `fromLayers_of_merged`: all of
  them;
* `Layered`, `load_layered`: each setting is taken, apart from the others, from the first
  of the options, the environment, the plain file and the project file that makes it, or
  it has its default.
-/
import LintRepair.Config.Layers
import LintRepair.Proofs.Config.Checked
import LintRepair.Proofs.Toml.Keys

namespace LintRepair.Config

open Text Json Utf8

variable {disk : Disk} {dir up : Location} {name : String} {bs : Bytes} {t : Text}
  {fs below above options : Fields} {environment : Keyed String} {v : Value}
  {s : Settings}

/-! ### Files -/

/-- A file of a name in a directory at or above another one, and in none that is
nearer. -/
structure Nearest (disk : Disk) (name : String) (dir up : Location) (bs : Bytes) : Prop where
  above : up <+: dir
  file : disk.file? (up ++ [name]) = some bs
  first : ∀ d, d <+: dir → up.length < d.length → disk.file? (d ++ [name]) = none

lemma mem_ancestors {d : Location} : d ∈ ancestors dir ↔ d <+: dir := by
  simp only [ancestors, List.mem_map, List.mem_reverse, List.mem_range]
  constructor
  · rintro ⟨k, -, rfl⟩
    exact List.take_prefix k dir
  · intro above
    exact ⟨d.length, Nat.lt_succ_of_le above.length_le, (List.prefix_iff_eq_take.mp above).symm⟩

/-- The nearer directories come first. -/
lemma pairwise_ancestors (dir : Location) :
    (ancestors dir).Pairwise fun d d' => d'.length < d.length := by
  rw [ancestors, List.pairwise_map, List.pairwise_reverse]
  refine List.pairwise_lt_range.imp_of_mem fun {j k} first second before => ?_
  rw [List.mem_range] at first second
  rw [List.length_take_of_le (by omega), List.length_take_of_le (by omega)]
  exact before

lemma nearest_of_nearest? {l : Location} (found : nearest? disk name dir = some (l, bs)) :
    ∃ up, Nearest disk name dir up bs := by
  obtain ⟨nearer, up, farther, parts, file, none⟩ := List.findSome?_eq_some_iff.mp found
  obtain ⟨bs', file, same⟩ := Option.map_eq_some_iff.mp file
  cases same
  have ordered := parts ▸ pairwise_ancestors dir
  rw [List.pairwise_append, List.pairwise_cons] at ordered
  refine ⟨up, mem_ancestors.mp (by simp [parts]), file, fun d above near => ?_⟩
  have among := parts ▸ mem_ancestors.mpr above
  rcases List.mem_append.mp among with among | among
  · exact Option.map_eq_none_iff.mp (none d among)
  · rcases List.mem_cons.mp among with rfl | among
    · exact absurd near (Nat.lt_irrefl _)
    · exact absurd near (Nat.lt_asymm (ordered.2.1.1 d among))

lemma file?_eq_none_of_nearest? (absent : nearest? disk name dir = none) :
    ∀ d, d <+: dir → disk.file? (d ++ [name]) = none := fun d above =>
  Option.map_eq_none_iff.mp (List.findSome?_eq_none_iff.mp absent d (mem_ancestors.mpr above))

/-- The fields of the nearest file of a name. A file that is no document defines
nothing, and hides those above it. -/
inductive Document (disk : Disk) (name : String) (dir : Location) : Fields → Prop
  | absent (none : ∀ d, d <+: dir → disk.file? (d ++ [name]) = none) : Document disk name dir []
  | malformed {up : Location} {bs : Bytes} {t : Text} (nearest : Nearest disk name dir up bs)
      (text : decode bs = .ok t) (fault : Toml.read t = .error .malformed) :
      Document disk name dir []
  | read {up : Location} {bs : Bytes} {t : Text} {fs : Fields}
      (nearest : Nearest disk name dir up bs) (text : decode bs = .ok t)
      (document : Toml.read t = .ok fs) : Document disk name dir fs

/-- A document gives each of its keys once. -/
lemma Document.orderly (h : Document disk name dir fs) : (Value.object fs).Orderly := by
  cases h with
  | absent | malformed => exact .object List.nodup_nil (by simp)
  | read _ _ document => exact Toml.read_orderly document

lemma Document.distinct (h : Document disk name dir fs) : fs.Distinct := by
  cases h.orderly with
  | object distinct _ => exact distinct

lemma decode_of_fileText (text : fileText bs = .ok t) : decode bs = .ok t := by
  rw [fileText] at text
  cases decoding : decode bs with
  | error fault =>
      rw [decoding] at text
      cases text
  | ok t' =>
      rw [decoding] at text
      cases text
      rfl

lemma document_of_documentFields (nearest : Nearest disk name dir up bs)
    (text : fileText bs = .ok t) (read : documentFields t = .ok fs) :
    Document disk name dir fs := by
  have decoded := decode_of_fileText text
  rw [documentFields] at read
  split at read
  · next document =>
    cases read
    exact .read nearest decoded document
  · next fault =>
    cases read
    exact .malformed nearest decoded fault
  · cases read
  · cases read

/-- The table of this program in a project file, among those of the tools. It is empty
where it is missing. -/
def OwnTable (project own : Fields) : Prop :=
  ∃ tools, (Fields.get? project "tool").getD (.object []) = .object tools ∧
    (Fields.get? tools "jsmend").getD (.object []) = .object own

/-- The settings of the nearest plain file. -/
def plainLayer (disk : Disk) (dir : Location) : Except Fault Fields :=
  match nearest? disk plainFileName dir with
  | some (_, bs) => fileText bs >>= ofPlainFile
  | none => .ok []

/-- The settings of the nearest project file. -/
def projectLayer (disk : Disk) (dir : Location) : Except Fault Fields :=
  match nearest? disk projectFileName dir with
  | some (_, bs) => fileText bs >>= ofProjectFile
  | none => .ok []

lemma merged_eq (disk : Disk) (dir : Location) (environment : Keyed String) (options : Fields) :
    merged disk dir environment options = (do
      let project ← projectLayer disk dir
      let plain ← plainLayer disk dir
      let above ← ofEnvironment environment
      return overlay (overlay (overlay (overlay [] project) plain) above) (known options)) := by
  rw [merged, projectLayer, plainLayer]
  rcases nearest? disk projectFileName dir with - | ⟨_, bs⟩ <;>
    rcases nearest? disk plainFileName dir with - | ⟨_, bs'⟩ <;>
    simp only [bind_assoc, pure_bind] <;> rfl

lemma exists_of_plainLayer (read : plainLayer disk dir = .ok fs) :
    ∃ plain, Document disk plainFileName dir plain ∧ fs = known plain := by
  rw [plainLayer] at read
  split at read
  · next found =>
    obtain ⟨up, nearest⟩ := nearest_of_nearest? found
    obtain ⟨t, text, read⟩ := exists_of_bind_eq_ok read
    obtain ⟨plain, document, rfl⟩ := exists_of_map_eq_ok read
    exact ⟨plain, document_of_documentFields nearest text document, rfl⟩
  · next absent =>
    cases read
    exact ⟨[], .absent (file?_eq_none_of_nearest? absent), rfl⟩

lemma exists_of_projectLayer (read : projectLayer disk dir = .ok fs) :
    ∃ project own, Document disk projectFileName dir project ∧ OwnTable project own ∧
      fs = known own := by
  rw [projectLayer] at read
  split at read
  · next found =>
    obtain ⟨up, nearest⟩ := nearest_of_nearest? found
    obtain ⟨t, text, read⟩ := exists_of_bind_eq_ok read
    obtain ⟨project, document, read⟩ := exists_of_bind_eq_ok read
    split at read
    · next tools table =>
      split at read
      · next own table' =>
        cases read
        exact ⟨project, own, document_of_documentFields nearest text document,
          ⟨tools, table, table'⟩, rfl⟩
      · cases read
    · cases read
  · next absent =>
    cases read
    exact ⟨[], [], .absent (file?_eq_none_of_nearest? absent), ⟨[], rfl, rfl⟩, rfl⟩

/-- The table of this program gives each of its keys once. -/
lemma OwnTable.distinct {project own : Fields} (h : OwnTable project own)
    (orderly : (Value.object project).Orderly) : own.Distinct := by
  have inner : ∀ {fs found : Fields} {key : String}, (Value.object fs).Orderly →
      (Fields.get? fs key).getD (.object []) = .object found → (Value.object found).Orderly := by
    intro fs found key orderly stands
    cases reads : Fields.get? fs key with
    | none =>
        rw [reads] at stands
        cases stands
        exact .object List.nodup_nil (by simp)
    | some v =>
        rw [reads] at stands
        cases orderly with
        | object _ each => exact stands ▸ each _ (Keyed.mem_of_lookup reads)
  obtain ⟨tools, table, table'⟩ := h
  cases inner (inner orderly table) table' with
  | object distinct _ => exact distinct

/-! ### One layer over another -/

/-- What a layer gives a setting. Null gives nothing. -/
def given? (fs : Fields) (name : String) : Option Value := Value.present? (Fields.get? fs name)

lemma get?_cons (f : String × Value) (fs : Fields) (name : String) :
    Fields.get? (f :: fs) name = if name = f.1 then some f.2 else Fields.get? fs name :=
  Keyed.lookup_cons f fs name

lemma given?_known (among : name ∈ names) : given? (known fs) name = given? fs name := by
  have kept : Fields.get? (known fs) name = Fields.get? fs name := by
    rw [Fields.get?, known, Keyed.lookup_filter names.contains, if_pos (by simpa using among),
      Fields.get?]
  rw [given?, kept, given?]

lemma distinct_known (distinct : fs.Distinct) : (known fs).Distinct := distinct.filter _

/-- One field over others. -/
lemma get?_overlay_singleton (f : String × Value) (below : Fields) (name : String) :
    Fields.get? (overlay below [f]) name =
      (if name = f.1 then Value.present? (some f.2) else none).or (Fields.get? below name) := by
  obtain ⟨k, v⟩ := f
  cases v with
  | null => simp [overlay, Value.present?]
  | bool | int | float | string | array | object | moment =>
      simp only [overlay, List.foldl_cons, List.foldl_nil, Fields.get?_put, Value.present?]
      split <;> simp

lemma named_known (fs : Fields) : ∀ f ∈ known fs, f.1 ∈ names := by
  intro f among
  simpa using (List.mem_filter.mp among).2

/-- Over settings, settings make nothing else. -/
lemma named_overlay (lower : ∀ f ∈ below, f.1 ∈ names) (upper : ∀ f ∈ above, f.1 ∈ names) :
    ∀ f ∈ overlay below above, f.1 ∈ names := by
  induction above generalizing below with
  | nil => exact lower
  | cons f rest ih =>
      rw [List.forall_mem_cons] at upper
      have first : ∀ f' ∈ overlay below [f], f'.1 ∈ names := by
        obtain ⟨k, v⟩ := f
        have written : ∀ f ∈ Fields.put k v below, f.1 ∈ names :=
          Keyed.forall_mem_put (P := fun f => f.1 ∈ names) lower upper.1
        cases v with
        | null => exact lower
        | bool | int | float | string | array | object | moment => exact written
      exact ih first upper.2

/-- Under distinct names each field of the upper layer counts for itself. -/
lemma get?_overlay (distinct : above.Distinct) :
    Fields.get? (overlay below above) name = (given? above name).or (Fields.get? below name) := by
  induction above generalizing below with
  | nil => simp [overlay, given?, Fields.get?, Value.present?]
  | cons f rest ih =>
      obtain ⟨other, distinct⟩ := List.nodup_cons.mp distinct
      have step : overlay below (f :: rest) = overlay (overlay below [f]) rest := rfl
      rw [step, ih distinct, get?_overlay_singleton, given?, given?, get?_cons]
      by_cases here : name = f.1
      · have absent : Fields.get? rest f.1 = none := Keyed.lookup_eq_none_of_notMem other
        simp [here, absent, Value.present?]
      · simp [here]

/-! ### The environment -/

/-- What a variable of the environment gives a setting. -/
inductive Converted (environment : Keyed String) (name : String) : Option Value → Prop
  | unset (absent : environment.lookup (variableName name) = none) :
      Converted environment name none
  | set {value : String} {v : Value}
      (present : environment.lookup (variableName name) = some value)
      (converted : convert name value = .ok v) : Converted environment name (some v)

/-- No variable gives null. -/
lemma convert_ne_null {value : String} : convert name value ≠ .ok .null := by
  intro converted
  unfold convert at converted
  dsimp only at converted
  split at converted
  iterate 3
    · rw [flag] at converted
      split_ifs at converted <;> cases converted
  iterate 3
    · rw [whole] at converted
      split at converted <;> cases converted
  · rw [real] at converted
    split at converted <;> cases converted
  · cases converted
  · cases converted

/-- The environment gives each setting what its variable gives. -/
lemma converted_of_ofEnvironment (run : ofEnvironment environment = .ok fs) :
    fs.Distinct ∧ (∀ f ∈ fs, f.1 ∈ names) ∧
      ∀ name ∈ names, Converted environment name (given? fs name) := by
  obtain ⟨found, mapped, made⟩ := exists_of_bind_eq_ok run
  cases made
  have items := forall₂_of_mapM mapped
  have distinct : names.Nodup := by decide
  clear mapped run
  -- each name gives one field or none, by induction on the names
  generalize names = ns at items distinct
  induction items with
  | nil => exact ⟨List.nodup_nil, by simp, by simp⟩
  | @cons n o ns found head _ ih =>
      obtain ⟨other, distinct⟩ := List.nodup_cons.mp distinct
      obtain ⟨tail, within, each⟩ := ih distinct
      have unused : n ∉ (found.filterMap id).map Prod.fst := by
        intro used
        obtain ⟨f, among, rfl⟩ := List.mem_map.mp used
        exact other (within f among)
      split at head
      · next value present =>
        obtain ⟨v, converted, head⟩ := exists_of_bind_eq_ok head
        cases head
        refine ⟨List.nodup_cons.mpr ⟨unused, tail⟩, ?_, ?_⟩
        · exact List.forall_mem_cons.mpr ⟨List.mem_cons_self,
            fun f among => List.mem_cons_of_mem _ (within f among)⟩
        · refine List.forall_mem_cons.mpr ⟨?_, fun name among => ?_⟩
          · have own : given? ((n, v) :: found.filterMap id) n = some v := by
              rw [given?, get?_cons, if_pos rfl]
              refine Value.present?_of_ne_null fun null => ?_
              have null := Option.some.inj null
              exact convert_ne_null (converted.trans (congrArg Except.ok null))
            exact own ▸ .set present converted
          · have kept : given? ((n, v) :: found.filterMap id) name =
                given? (found.filterMap id) name := by
              rw [given?, get?_cons, if_neg, given?]
              rintro rfl
              exact other among
            exact kept ▸ each name among
      · next absent =>
        cases head
        refine ⟨tail, fun f among => List.mem_cons_of_mem _ (within f among), ?_⟩
        refine List.forall_mem_cons.mpr ⟨?_, each⟩
        have none : given? (found.filterMap id) n = none := by
          rw [given?, Fields.get?, Keyed.lookup_eq_none_of_notMem unused]
          rfl
        exact none ▸ .unset absent

/-! ### All layers -/

/-- What all layers together give each setting: what the first of the options, the
environment, the plain file and the project file gives it that gives it anything. -/
def FromLayers (disk : Disk) (dir : Location) (environment : Keyed String) (options : Fields)
    (value? : String → Option Value) : Prop :=
  ∃ project plain own, Document disk projectFileName dir project ∧
    Document disk plainFileName dir plain ∧ OwnTable project own ∧
    ∀ name ∈ names, ∃ v?, Converted environment name v? ∧
      value? name =
        (given? options name).or (v?.or ((given? plain name).or (given? own name)))

lemma fromLayers_of_merged (dictionary : options.Distinct)
    (layers : merged disk dir environment options = .ok fs) :
    FromLayers disk dir environment options (Fields.get? fs) ∧ ∀ f ∈ fs, f.1 ∈ names := by
  rw [merged_eq] at layers
  obtain ⟨projectFields, readProject, layers⟩ := exists_of_bind_eq_ok layers
  obtain ⟨plainFields, readPlain, layers⟩ := exists_of_bind_eq_ok layers
  obtain ⟨above, environmental, layers⟩ := exists_of_bind_eq_ok layers
  cases layers
  obtain ⟨project, own, document, table, rfl⟩ := exists_of_projectLayer readProject
  obtain ⟨plain, document', rfl⟩ := exists_of_plainLayer readPlain
  obtain ⟨distinct, within, converted⟩ := converted_of_ofEnvironment environmental
  refine ⟨⟨project, plain, own, document, document', table, fun name among => ?_⟩, ?_⟩
  · refine ⟨_, converted name among, ?_⟩
    have nothing : Fields.get? [] name = none := rfl
    rw [get?_overlay (distinct_known dictionary), get?_overlay distinct,
      get?_overlay (distinct_known document'.distinct),
      get?_overlay (distinct_known (table.distinct document.orderly)), nothing,
      given?_known among, given?_known among, given?_known among, Option.or_none]
  · have none : ∀ f ∈ ([] : Fields), f.1 ∈ names := by simp
    exact named_overlay (named_overlay (named_overlay (named_overlay none
      (named_known own)) (named_known plain)) within) (named_known options)

/-- Each setting holds what the layers give it, or it has its default. -/
def Layered (disk : Disk) (dir : Location) (environment : Keyed String) (options : Fields)
    (s : Settings) : Prop :=
  ∃ value?, FromLayers disk dir environment options value? ∧
    ∀ name ∈ names, Fields.get? s.toFields name =
      (value? name).or (Fields.get? ({} : Settings).toFields name)

/-- **One layer after another.** The settings of a run are each taken, apart from all
others, from the first layer that makes them: the options, the environment, the nearest
plain file, the table of this program in the nearest project file. A setting that no
layer makes has its default, and a field that is no setting makes no difference. -/
theorem load_layered (dictionary : options.Distinct)
    (run : load disk dir environment options = .ok s) :
    Layered disk dir environment options s ∧
      load disk dir environment (known options) = .ok s := by
  have again : known (known options) = known options := by simp [known, List.filter_filter]
  refine ⟨?_, by rw [← run, load, load, merged, merged, again]⟩
  obtain ⟨fs, layers, made⟩ := exists_of_bind_eq_ok run
  obtain ⟨values, -⟩ := fromLayers_of_merged dictionary layers
  obtain ⟨-, holds⟩ := of_ofFields made
  exact ⟨Fields.get? fs, values, holds⟩

/-- A plain file below a project file. -/
def bothFiles : Disk :=
  let bytes (s : String) : Bytes := s.toList.map fun c => c.toNat.toUInt8
  { files :=
      [(["home", ".jsmendrc"], bytes "file_name = 'a.js'\nrules = 1\n"),
        (["pyproject.toml"], bytes "[tool.jsmend]\nfile_name = 'b.js'\nhistory_limit = 7\n")] }

/-- Every layer makes a setting, one of them also one that a nearer layer makes. -/
theorem load_layered_bothFiles :
    let environment := [("JSMEND_CACHE_SIZE", "9")]
    let options : Fields := [("cache_size", .null), ("prefer_const", .int 0)]
    options.Distinct ∧ ∃ s, load bothFiles ["home", "me"] environment options = .ok s ∧
      (s.fileName, s.historyLimit, s.cacheSize) = ("a.js", 7, 9) ∧
      Layered bothFiles ["home", "me"] environment options s := by
  intro environment options
  have distinct : options.Distinct := by decide
  have loaded : ((load bothFiles ["home", "me"] environment options).toOption.map fun s =>
      (s.fileName, s.historyLimit, s.cacheSize)) = some ("a.js", 7, 9) := by decide +kernel
  obtain ⟨s, found, values⟩ := Option.map_eq_some_iff.mp loaded
  obtain ⟨s', run⟩ : ∃ s', load bothFiles ["home", "me"] environment options = .ok s' := by
    cases run : load bothFiles ["home", "me"] environment options with
    | error => simp [run, Except.toOption] at found
    | ok s' => exact ⟨s', rfl⟩
  rw [run] at found
  cases found
  exact ⟨distinct, s, run, values, (load_layered distinct run).1⟩

end LintRepair.Config
