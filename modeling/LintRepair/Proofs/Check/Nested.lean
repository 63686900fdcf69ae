/-
Brackets that fit.

* `BracketAt`, `bracketsIn`: the brackets of a text that are code;
* `WellNested`: brackets in pairs, one pair inside or behind another;
  `WellNested.exists_opener`, `WellNested.exists_closer`: what one of them closes, and what
  closes one;
* `Closes`: what closes the brackets that are open, the last one first, and opens others only
  to close them; `closes_opener`, `closes_closer`: one bracket more;
* `faultsFrom_eq_nil_iff`: no fault is found just where the open brackets are closed so;
* `subperm_faultsFrom`: every fault is about a bracket of its own;
* `balance_bracketFaults`: the faults of a text, from these.
-/
import LintRepair.Check.Syntax
import Mathlib.Data.List.Nodup
import Mathlib.Data.List.Perm.Subperm
import Mathlib.Tactic.Common

namespace LintRepair.Check

open Text Lexical Code

variable {t w v outer : Text} {c o k : Char} {i : Nat} {stack brackets : List (Char × Nat)}

/-! ### Brackets in code -/

/-- A bracket of code stands at an offset. -/
structure BracketAt (t : Text) (i : Nat) (c : Char) : Prop where
  here : t[i]? = some c
  code : (kinds t)[i]? = some .code
  bracket : isOpener c = true ∨ isCloser c = true

/-- Of characters with their kinds, the brackets that are code. -/
def bracketsOf (ms : List (Char × Kind)) : Text :=
  (ms.filter fun (c, kind) => kind == .code && (isOpener c || isCloser c)).map Prod.fst

/-- The brackets of a text that are code, one after the other. -/
def bracketsIn (t : Text) : Text := bracketsOf (t.zip (kinds t))

lemma mem_codeBrackets : (c, i) ∈ codeBrackets t ↔ BracketAt t i c := by
  simp only [codeBrackets, List.mem_map, List.mem_filter, List.mem_zipIdx_iff_getElem?,
    Bool.and_eq_true, Bool.or_eq_true, beq_iff_eq, Prod.exists, Prod.mk.injEq,
    List.getElem?_zip_eq_some]
  constructor
  · rintro ⟨_, kind, _, ⟨⟨here, code⟩, rfl, bracket⟩, rfl, rfl⟩
    exact ⟨here, code, bracket⟩
  · rintro ⟨here, code, bracket⟩
    exact ⟨c, .code, i, ⟨⟨here, code⟩, rfl, bracket⟩, rfl, rfl⟩

lemma map_fst_codeBrackets (t : Text) : (codeBrackets t).map Prod.fst = bracketsIn t := by
  have numbered := @List.filter_map _ _ Prod.fst
    (fun (x : Char × Kind) => x.2 == .code && (isOpener x.1 || isCloser x.1))
    (t.zip (kinds t)).zipIdx
  rw [List.zipIdx_map_fst] at numbered
  rw [bracketsIn, bracketsOf, numbered, List.map_map, codeBrackets, List.map_map]
  rfl

/-- No two of them stand at the same offset. -/
lemma nodup_codeBrackets (t : Text) : ((codeBrackets t).map Prod.snd).Nodup := by
  have offsets :
      ((codeBrackets t).map Prod.snd).Sublist ((t.zip (kinds t)).zipIdx.map Prod.snd) := by
    rw [codeBrackets, List.map_map]
    exact List.filter_sublist.map Prod.snd
  rw [List.zipIdx_map_snd] at offsets
  exact offsets.nodup List.nodup_range'

/-! ### Nesting -/

/-- Brackets that fit: none, or the first one is closed by its partner, and those between the
two fit, and those behind them. -/
inductive WellNested : Text → Prop
  | nil : WellNested []
  | pair {o c : Char} {inner rest : Text} (partners : closerOf? o = some c)
      (inside : WellNested inner) (behind : WellNested rest) :
      WellNested (o :: (inner ++ c :: rest))

/-- Brackets behind some that are open: they close these, the last one first, and what is
between fits. -/
inductive Closes : Text → Text → Prop
  | none {w : Text} (fits : WellNested w) : Closes [] w
  | last {o c : Char} {outer w rest : Text} (partners : closerOf? o = some c)
      (inside : WellNested w) (behind : Closes outer rest) :
      Closes (o :: outer) (w ++ c :: rest)

lemma closerOf?_isSome : (closerOf? o).isSome = isOpener o := by
  rw [closerOf?, isOpener]
  split_ifs <;> simp_all

lemma openerOf?_isSome : (openerOf? c).isSome = isCloser c := by
  rw [openerOf?, isCloser]
  split_ifs <;> simp_all

/-- Each bracket is the partner of its partner. -/
lemma openerOf?_eq_some_iff : openerOf? c = some o ↔ closerOf? o = some c := by
  rw [openerOf?, closerOf?]
  constructor <;> (intro partners; split_ifs at partners <;> cases partners <;> simp_all)

/-- No bracket both opens and closes. -/
lemma closerOf?_of_openerOf? (closes : openerOf? c = some o) : closerOf? c = none := by
  rw [openerOf?] at closes
  split_ifs at closes <;> simp_all [closerOf?]

lemma isOpener_of_closerOf (partners : closerOf? o = some c) : isOpener o = true := by
  rw [← closerOf?_isSome, partners]
  rfl

lemma isCloser_of_closerOf (partners : closerOf? o = some c) : isCloser c = true := by
  rw [← openerOf?_isSome, openerOf?_eq_some_iff.mpr partners]
  rfl

lemma closerOf?_of_isCloser (closes : isCloser k = true) : closerOf? k = none := by
  rw [← openerOf?_isSome] at closes
  obtain ⟨o, partners⟩ := Option.isSome_iff_exists.mp closes
  exact closerOf?_of_openerOf? partners

lemma not_wellNested_closer (closes : openerOf? c = some o) : ¬ WellNested (c :: w) := by
  intro fits
  cases fits with
  | pair partners =>
      rw [closerOf?_of_openerOf? closes] at partners
      cases partners

/-- The last bracket of those that fit closes. -/
lemma WellNested.closerOf?_getLast (h : WellNested w) : ∀ b ∈ w.getLast?, closerOf? b = none := by
  induction h with
  | nil => exact fun b last => by cases last
  | @pair o c inner rest partners _ _ _ behind =>
      intro b last
      rw [← List.cons_append, List.getLast?_append] at last
      cases rest with
      | nil =>
          obtain rfl : c = b := by simpa using last
          exact closerOf?_of_isCloser (isCloser_of_closerOf partners)
      | cons b' rest => exact behind b (by simpa using last)

/-- **What a bracket closes.** Where the brackets fit, so do those between it and its partner. -/
lemma WellNested.exists_opener (h : WellNested (w ++ k :: v)) (closes : isCloser k = true) :
    ∃ before o inside, w = before ++ o :: inside ∧ closerOf? o = some k ∧ WellNested inside := by
  generalize shape : w ++ k :: v = whole at h
  induction h generalizing w v with
  | nil => simp at shape
  | @pair o c inner rest partners fits _ inside behind =>
      cases w with
      | nil =>
          obtain ⟨rfl, -⟩ := List.cons.inj shape
          rw [closerOf?_of_isCloser closes] at partners
          cases partners
      | cons b w =>
          rw [List.cons_append, List.cons.injEq] at shape
          obtain ⟨rfl, shape⟩ := shape
          rcases List.append_eq_append_iff.mp shape with ⟨more, rfl, parts⟩ | ⟨more, rfl, parts⟩
          · cases more with
            | nil =>
                obtain ⟨rfl, -⟩ := List.cons.inj parts
                exact ⟨[], b, w, rfl, partners, by simpa using fits⟩
            | cons b' more =>
                rw [List.cons_append, List.cons.injEq] at parts
                obtain ⟨rfl, parts⟩ := parts
                obtain ⟨before, o, between, rfl, partners', fits'⟩ :=
                  inside (w := w) (v := more) rfl
                exact ⟨b :: before, o, between, rfl, partners', fits'⟩
          · cases more with
            | nil =>
                obtain ⟨rfl, -⟩ := List.cons.inj parts
                exact ⟨[], b, inner, by simp, partners, fits⟩
            | cons b' more =>
                rw [List.cons_append, List.cons.injEq] at parts
                obtain ⟨rfl, parts⟩ := parts
                obtain ⟨before, o, between, rfl, partners', fits'⟩ := behind parts.symm
                exact ⟨b :: (inner ++ c :: before), o, between, by simp, partners', fits'⟩

/-- An opening bracket is open behind it. -/
lemma closes_opener {open' : Text} (opens : closerOf? o = some c) :
    Closes open' (o :: w) ↔ Closes (o :: open') w := by
  constructor
  · intro h
    generalize shape : o :: w = v at h
    cases h with
    | none fits =>
        cases fits with
        | nil => cases shape
        | pair partners inside behind =>
            obtain ⟨rfl, rfl⟩ := List.cons.inj shape
            exact .last partners inside (.none behind)
    | last partners inside behind =>
        cases inside with
        | nil =>
            obtain ⟨rfl, -⟩ := List.cons.inj shape
            rw [closerOf?_of_openerOf? (openerOf?_eq_some_iff.mpr partners)] at opens
            cases opens
        | pair partners' inside' behind' =>
            obtain ⟨rfl, rfl⟩ := List.cons.inj shape
            have group := Closes.last partners' inside' (.last partners behind' behind)
            simpa using group
  · intro h
    cases h with
    | last partners inside behind =>
        cases behind with
        | none fits => exact .none (.pair partners inside fits)
        | @last _ _ _ w' rest partners' inside' behind' =>
            have group := Closes.last partners' (WellNested.pair partners inside inside') behind'
            simpa using group

/-- A closing bracket closes the last one that is open. -/
lemma closes_closer {open' : Text} (closes : openerOf? c = some o) :
    Closes open' (c :: w) ↔ ∃ outer, open' = o :: outer ∧ Closes outer w := by
  constructor
  · intro h
    generalize shape : c :: w = v at h
    cases h with
    | none fits => exact absurd (shape ▸ fits) (not_wellNested_closer closes)
    | last partners inside behind =>
        cases inside with
        | nil =>
            obtain ⟨rfl, rfl⟩ := List.cons.inj shape
            rw [openerOf?_eq_some_iff.mpr partners, Option.some_inj] at closes
            exact ⟨_, by rw [closes], behind⟩
        | pair partners' _ _ =>
            obtain ⟨rfl, -⟩ := List.cons.inj shape
            rw [closerOf?_of_openerOf? closes] at partners'
            cases partners'
  · rintro ⟨outer, rfl, behind⟩
    exact .last (w := []) (openerOf?_eq_some_iff.mp closes) .nil behind

/-- Brackets leave some others open at any place. -/
lemma exists_closes_of_append (h : Closes outer (w ++ v))
    (solid : ∀ b ∈ w, isOpener b = true ∨ isCloser b = true) : ∃ outer', Closes outer' v := by
  induction w generalizing outer with
  | nil => exact ⟨outer, h⟩
  | cons b w ih =>
      have solid' := fun k among => solid k (List.mem_cons_of_mem b among)
      rcases solid b List.mem_cons_self with opens | closes
      · obtain ⟨c, partners⟩ := Option.isSome_iff_exists.mp (closerOf?_isSome.trans opens)
        exact ih ((closes_opener partners).mp h) solid'
      · obtain ⟨o, partners⟩ := Option.isSome_iff_exists.mp (openerOf?_isSome.trans closes)
        obtain ⟨outer', -, behind⟩ := (closes_closer partners).mp h
        exact ih behind solid'

/-- **What closes a bracket.** Where the brackets fit, so do those between it and its partner. -/
lemma WellNested.exists_closer (h : WellNested (w ++ o :: v))
    (solid : ∀ b ∈ w, isOpener b = true ∨ isCloser b = true) (partners : closerOf? o = some c) :
    ∃ inside rest, v = inside ++ c :: rest ∧ WellNested inside := by
  obtain ⟨outer, open'⟩ := exists_closes_of_append (.none h) solid
  cases (closes_opener partners).mp open' with
  | @last _ c' _ inside rest partners' fits _ =>
      obtain rfl : c = c' := Option.some.inj (partners.symm.trans partners')
      exact ⟨inside, rest, rfl, fits⟩

/-! ### Faults -/

/-- **No fault** is found just where the brackets that are open are closed, and none besides. -/
theorem faultsFrom_eq_nil_iff (solid : ∀ b ∈ brackets, isOpener b.1 = true ∨ isCloser b.1 = true) :
    faultsFrom stack brackets = [] ↔ Closes (stack.map Prod.fst) (brackets.map Prod.fst) := by
  induction brackets generalizing stack with
  | nil =>
      cases stack with
      | nil => exact iff_of_true rfl (.none .nil)
      | cons b stack =>
          refine iff_of_false (by simp [faultsFrom]) fun h => ?_
          generalize shape : ([] : List (Char × Nat)).map Prod.fst = v at h
          cases h with
          | last => simp at shape
  | cons b rest ih =>
      obtain ⟨c, i⟩ := b
      have later := fun stack => @ih stack fun b among => solid b (List.mem_cons_of_mem _ among)
      rw [faultsFrom, List.map_cons]
      split
      · next none' =>
        have opens : (closerOf? c).isSome = true := by
          rw [closerOf?_isSome]
          refine (solid _ List.mem_cons_self).resolve_right fun closes => ?_
          rw [← openerOf?_isSome, none'] at closes
          cases closes
        obtain ⟨closer, partners⟩ := Option.isSome_iff_exists.mp opens
        rw [later, closes_opener partners, List.map_cons]
      · next opener partners =>
        rw [closes_closer partners]
        cases stack with
        | nil => simp
        | cons b stack =>
            obtain ⟨o, j⟩ := b
            by_cases same : o = opener
            · subst same
              simp [later]
            · simp [same]

/-- The bracket that a fault is about. -/
def BracketFault.bracket : BracketFault → Char × Nat
  | .unmatched c offset | .unclosed c offset => (c, offset)

/-- Behind a closing bracket that does not fit, no more are open than before. -/
lemma remaining_sublist (stack : List (Char × Nat)) (opener : Char) :
    (if (stack.dropWhile (·.1 != opener)).isEmpty then stack
      else (stack.dropWhile (·.1 != opener)).tail).Sublist stack := by
  split_ifs
  · exact List.Sublist.refl stack
  · exact (List.tail_sublist _).trans (List.dropWhile_sublist _)

/-- **Each fault** is about a bracket of its own, among those that are open and those behind. -/
theorem subperm_faultsFrom (stack brackets : List (Char × Nat)) :
    ((faultsFrom stack brackets).map BracketFault.bracket).Subperm (stack ++ brackets) := by
  induction brackets generalizing stack with
  | nil =>
      have all : (faultsFrom stack []).map BracketFault.bracket = stack.reverse := by
        rw [faultsFrom, List.map_map]
        exact List.map_id _
      rw [all, List.append_nil]
      exact (List.reverse_perm stack).subperm
  | cons b rest ih =>
      obtain ⟨c, i⟩ := b
      rw [faultsFrom]
      split
      · exact (ih _).trans List.perm_middle.symm.subperm
      · next opener partners =>
        split_ifs with fits
        · exact (ih _).trans
            ((List.tail_sublist stack).append (List.sublist_cons_self _ rest)).subperm
        · have more := (ih _).trans ((remaining_sublist stack opener).append_right rest).subperm
          exact ((List.subperm_cons (c, i)).mpr more).trans List.perm_middle.symm.subperm

/-- A fault says whether its bracket opens or closes. -/
lemma of_mem_faultsFrom {f : BracketFault} (opens : ∀ b ∈ stack, openerOf? b.1 = none)
    (among : f ∈ faultsFrom stack brackets) :
    ∃ c i, f = .unclosed c i ∧ openerOf? c = none ∨
      f = .unmatched c i ∧ (openerOf? c).isSome = true := by
  induction brackets generalizing stack with
  | nil =>
      simp only [faultsFrom, List.mem_map, List.mem_reverse] at among
      obtain ⟨⟨c, i⟩, inside, rfl⟩ := among
      exact ⟨c, i, .inl ⟨rfl, opens _ inside⟩⟩
  | cons b rest ih =>
      obtain ⟨c, i⟩ := b
      rw [faultsFrom] at among
      split at among
      · next none' =>
        exact ih (List.forall_mem_cons.mpr ⟨none', opens⟩) among
      · next opener partners =>
        split_ifs at among with fits
        · exact ih (fun b inside => opens b (List.mem_of_mem_tail inside)) among
        · rcases List.mem_cons.mp among with rfl | later
          · exact ⟨c, i, .inr ⟨rfl, by rw [partners]; rfl⟩⟩
          · exact ih (fun b inside => opens b ((remaining_sublist stack opener).mem inside)) later

/-! ### The faults of a text -/

/-- A fault about a bracket of the text: one that closes is unmatched, one that opens is
unclosed. -/
inductive FaultAt (t : Text) : BracketFault → Prop
  | unmatched {c : Char} {i : Nat} (stands : BracketAt t i c) (closes : isCloser c = true) :
      FaultAt t (.unmatched c i)
  | unclosed {c : Char} {i : Nat} (stands : BracketAt t i c) (opens : isOpener c = true) :
      FaultAt t (.unclosed c i)

lemma faultAt_of_mem {f : BracketFault} (among : f ∈ bracketFaults t) : FaultAt t f := by
  have stands : BracketAt t f.bracket.2 f.bracket.1 :=
    mem_codeBrackets.mp ((subperm_faultsFrom [] _).subset (List.mem_map_of_mem among))
  obtain ⟨c, i, ⟨rfl, none'⟩ | ⟨rfl, some'⟩⟩ := of_mem_faultsFrom (by simp) among
  · refine .unclosed stands (stands.bracket.resolve_right fun closes => ?_)
    have some' : (openerOf? c).isSome = true := openerOf?_isSome.trans closes
    rw [none'] at some'
    cases some'
  · exact .unmatched stands (openerOf?_isSome ▸ some')

/-- No fault is found just if the brackets fit. -/
lemma bracketFaults_eq_nil_iff : bracketFaults t = [] ↔ WellNested (bracketsIn t) := by
  rw [bracketFaults, faultsFrom_eq_nil_iff fun b among => (mem_codeBrackets.mp among).bracket,
    map_fst_codeBrackets]
  constructor
  · intro h
    cases h with
    | none fits => exact fits
  · exact .none

/-- **Balance.** Whatever the text, no fault is found just if its brackets of code are well
nested. Each fault is about one of them, tells where it stands and whether it opens or closes,
and no two stand at the same offset. -/
theorem balance_bracketFaults (t : Text) :
    (bracketFaults t = [] ↔ WellNested (bracketsIn t)) ∧
      (∀ f ∈ bracketFaults t, FaultAt t f) ∧
      ((bracketFaults t).map BracketFault.offset).Nodup := by
  refine ⟨bracketFaults_eq_nil_iff, fun f among => faultAt_of_mem among, ?_⟩
  have each : ((bracketFaults t).map BracketFault.bracket).Subperm (codeBrackets t) :=
    subperm_faultsFrom [] (codeBrackets t)
  have offsets : (bracketFaults t).map BracketFault.offset =
      ((bracketFaults t).map BracketFault.bracket).map Prod.snd := by
    rw [List.map_map]
    refine List.map_congr_left fun f _ => ?_
    cases f <;> rfl
  obtain ⟨some', same, sublist⟩ := each
  rw [offsets, ← (same.map Prod.snd).nodup_iff]
  exact (sublist.map Prod.snd).nodup (nodup_codeBrackets t)

/-- The round bracket closes over the square one, which is given up without a fault of its own. -/
example : (bracketFaults "([)] /* ( */".toList).map BracketFault.message =
    ["Unmatched bracket ')' at position 2", "Unmatched bracket ']' at position 3"] := by
  decide

end LintRepair.Check
