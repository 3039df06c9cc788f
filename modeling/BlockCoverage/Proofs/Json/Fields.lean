import BlockCoverage.Json.Record
import BlockCoverage.Proofs.Json.Skipping
import Mathlib.Data.List.Pairwise

/-!
# Records are read as they were written

A record is written as an object with its fields as members, and read by letting every member enter
a draft. `Format.Fills` follows the draft along the members; where the draft at the end is one that
can be finished, the reader of the record reads it. Members of other names leave the draft as it is,
and fields that enter parts of the draft of their own may come in any order (`Fills.perm`).
-/

namespace BlockCoverage.Json

open Text (Bytes)

/-- What a field may do to a draft. -/
def Field.Enters {σ : Type} (f : Field σ) (enter : σ → σ) : Prop :=
  ∃ s t, f.value.run s = .ok (enter, t)

/-- Fields that know nothing of each other. -/
def Field.Disjoint {σ : Type} (f g : Field σ) : Prop :=
  ∀ enter enter', f.Enters enter → g.Enters enter' → ∀ d,
    f.given (enter' d) = f.given d ∧ g.given (enter d) = g.given d ∧
      enter (enter' d) = enter' (enter d)

instance {σ : Type} : Std.Symm (Field.Disjoint (σ := σ)) where
  symm f g h enter enter' henter henter' d := by
    obtain ⟨hgiven, hgiven', hcomm⟩ := h enter' enter henter' henter d
    exact ⟨hgiven', hgiven, hcomm.symm⟩

namespace Format

variable {σ α β : Type}

theorem enters_map {name : String} {r : Reader α} {set : α → σ → σ} {given : σ → Bool}
    {enter : σ → σ} (h : (Field.mk name (r.map set) given).Enters enter) : ∃ a, enter = set a := by
  obtain ⟨s, t, hrun⟩ := h
  rw [Reader.map] at hrun
  simp only at hrun
  split at hrun
  · cases hrun
  · rename_i a _ _
    exact ⟨a, (Prod.mk.inj (Except.ok.inj hrun)).1.symm⟩

theorem given_map {name : String} {r : Reader α} {set : α → σ → σ} {given : σ → Bool}
    (h : ∀ a d, given (set a d) = true) (enter : σ → σ)
    (henter : (Field.mk name (r.map set) given).Enters enter) (d : σ) : given (enter d) = true := by
  obtain ⟨a, rfl⟩ := enters_map henter
  exact h a d

theorem disjoint_map {name name' : String} {r : Reader α} {r' : Reader β} {set : α → σ → σ}
    {set' : β → σ → σ} {given given' : σ → Bool}
    (h : ∀ a b d, given (set' b d) = given d ∧ given' (set a d) = given' d ∧
      set a (set' b d) = set' b (set a d)) :
    (Field.mk name (r.map set) given).Disjoint (Field.mk name' (r'.map set') given') := by
  intro enter enter' henter henter' d
  obtain ⟨a, rfl⟩ := enters_map henter
  obtain ⟨b, rfl⟩ := enters_map henter'
  exact h a b d

/-- Fields that enter parts of a draft of their own. -/
structure Independent (fields : List (Field σ)) : Prop where
  given : ∀ f ∈ fields, ∀ enter, f.Enters enter → ∀ d, f.given (enter d) = true
  disjoint : fields.Pairwise Field.Disjoint

theorem independent_pair {name name' : String} {r : Reader α} {r' : Reader β} {set : α → σ → σ}
    {set' : β → σ → σ} {given given' : σ → Bool} (hgiven : ∀ a d, given (set a d) = true)
    (hgiven' : ∀ b d, given' (set' b d) = true)
    (h : ∀ a b d, given (set' b d) = given d ∧ given' (set a d) = given' d ∧
      set a (set' b d) = set' b (set a d)) :
    Independent [.mk name (r.map set) given, .mk name' (r'.map set') given'] where
  given := List.forall_mem_cons.mpr
    ⟨given_map hgiven, List.forall_mem_singleton.mpr (given_map hgiven')⟩
  disjoint := List.pairwise_pair.mpr (disjoint_map h)

/-- Members that take a draft to another: fields that are not given yet, and others. -/
inductive Fills (fields : List (Field σ)) : σ → List (String × String) → σ → Prop where
  | done {d : σ} : Fills fields d [] d
  | field {f : Field σ} {name value : String} {ms : List (String × String)} {d e : σ}
      {enter : σ → σ} (hfind : fields.find? (fun g => g.name == name) = some f)
      (hgiven : f.given d = false) (hvalue : f.value.Reads value enter)
      (hrest : Fills fields (enter d) ms e) : Fills fields d ((name, value) :: ms) e
  | other {name value : String} {ms : List (String × String)} {d e : σ}
      (hname : name ∉ fields.map Field.name) (hvalue : WellFormed value)
      (hrest : Fills fields d ms e) : Fills fields d ((name, value) :: ms) e

variable {fields : List (Field σ)} {d e : σ} {ms ns : List (String × String)}

/-- Others may follow. -/
theorem Fills.append (h : Fills fields d ms e)
    (hothers : ∀ o ∈ ns, o.1 ∉ fields.map Field.name ∧ WellFormed o.2) :
    Fills fields d (ms ++ ns) e := by
  induction h with
  | done =>
    induction ns with
    | nil => exact .done
    | cons o ns ih =>
      obtain ⟨⟨hname, hvalue⟩, hmore⟩ := List.forall_mem_cons.mp hothers
      exact .other hname hvalue (ih hmore)
  | field hfind hgiven hvalue _ ih => exact .field hfind hgiven hvalue ih
  | other hname hvalue _ ih => exact .other hname hvalue ih

/-- Two members may change places. -/
theorem Fills.swap (hfields : Independent fields) {m n : String × String}
    (h : Fills fields d (m :: n :: ms) e) : Fills fields d (n :: m :: ms) e := by
  cases h with
  | other hname hvalue hrest =>
    cases hrest with
    | other hname' hvalue' hrest => exact .other hname' hvalue' (.other hname hvalue hrest)
    | field hfind hgiven hread hrest => exact .field hfind hgiven hread (.other hname hvalue hrest)
  | @field f _ _ _ _ _ enter hfind hgiven hread hrest =>
    cases hrest with
    | other hname hvalue hrest => exact .other hname hvalue (.field hfind hgiven hread hrest)
    | @field g _ _ _ _ _ enter' hfind' hgiven' hread' hrest =>
      have hf := List.mem_of_find?_eq_some hfind
      have hg := List.mem_of_find?_eq_some hfind'
      -- a field that is given again is refused, so the two members are of two fields
      have hne : f ≠ g := by
        rintro rfl
        rw [hfields.given f hf enter hread.exists_run d] at hgiven'
        cases hgiven'
      obtain ⟨hkeeps, hkeeps', hcomm⟩ := hfields.disjoint.forall hf hg hne enter enter'
        hread.exists_run hread'.exists_run d
      refine .field hfind' (hkeeps'.symm.trans hgiven') hread' (.field hfind ?_ hread ?_)
      · exact hkeeps.trans hgiven
      · rwa [hcomm]

/-- Members may come in any order. -/
theorem Fills.perm (hfields : Independent fields) (h : Fills fields d ms e) (hperm : ms.Perm ns) :
    Fills fields d ns e := by
  induction hperm generalizing d with
  | nil => exact h
  | cons m _ ih =>
    cases h with
    | field hfind hgiven hvalue hrest => exact .field hfind hgiven hvalue (ih hrest)
    | other hname hvalue hrest => exact .other hname hvalue (ih hrest)
  | swap m n ms => exact h.swap hfields
  | trans _ _ ih ih' => exact ih' (ih h)

/-! ## The reader of a record -/

theorem members_end (fields : List (Field σ)) (draft : σ) {first : Bool} {s t : Bytes}
    (hnext : nextKey first s = .ok (false, t)) : members fields first draft s = .ok (draft, t) := by
  rw [members]
  split <;> rename_i h <;> rw [hnext] at h <;> cases h
  rfl

section Step

variable {fields : List (Field σ)} {draft : σ} {first : Bool} {key : String} {s t u v w : Bytes}
  (hnext : nextKey first s = .ok (true, t)) (hkey : textBody t = .ok (Text.Utf8.encode key, u))
  (hcolon : colon u = .ok v)

include hnext hkey hcolon

theorem members_step {f : Field σ} {enter : σ → σ}
    (hfind : fields.find? (fun f => f.name == key) = some f) (hgiven : f.given draft = false)
    (hvalue : f.value.run v = .ok (enter, w)) :
    members fields first draft s = members fields false (enter draft) w := by
  rw [members]
  split <;> rename_i h <;> rw [hnext] at h <;> cases h
  split <;> rename_i h <;> rw [hkey] at h <;> cases h
  -- the key is one of a field, so the branch that skips a value is out
  simp only [Text.Utf8.decodeLossy_encode, hfind, hgiven]
  rw [if_neg Bool.false_ne_true]
  split <;> rename_i h <;> rw [hcolon] at h <;> cases h
  split <;> rename_i h <;> rw [hvalue] at h <;> cases h
  rfl

theorem members_skip (hfind : fields.find? (fun f => f.name == key) = none)
    (hvalue : skip v = .ok w) :
    members fields first draft s = members fields false draft w := by
  rw [members]
  split <;> rename_i h <;> rw [hnext] at h <;> cases h
  split <;> rename_i h <;> rw [hkey] at h <;> cases h
  simp only [Text.Utf8.decodeLossy_encode, hfind]
  split <;> rename_i h <;> rw [hcolon] at h <;> cases h
  split <;> rename_i h <;> rw [hvalue] at h <;> cases h
  rfl

end Step

theorem find?_eq_none {name : String} (h : name ∉ fields.map Field.name) :
    fields.find? (fun f => f.name == name) = none := by
  refine List.find?_eq_none.mpr fun f hf hname => h ?_
  rw [← beq_iff_eq.mp hname]
  exact List.mem_map_of_mem hf

/-- The members of a record are read as the draft that they fill. -/
theorem members_lines (h : Fills fields d ms e) {parts : List String}
    (hparts : List.Forall₂ (fun m p => MemberText m.1 m.2 p) ms parts) {first : Bool}
    {s rest : Bytes} (hlines : Lines 125 first (parts.map Text.Utf8.encode) s rest) :
    members fields first d s = .ok (e, 125 :: rest) := by
  induction h generalizing first s parts with
  | done =>
    cases hparts
    cases hlines with
    | close hs => exact members_end fields _ (nextKey_close hs)
  | field hfind hgiven hread _ ih =>
    cases hparts with
    | cons hpart hmore =>
      obtain ⟨t, u, v, x, hnext, hkey, hcolon, hv, hends, hrest⟩ :=
        exists_nextKey hpart hread.starts hlines
      rw [members_step hnext hkey hcolon hfind hgiven (hread.takes hends hv)]
      exact ih hmore hrest
  | other hname hvalue _ ih =>
    cases hparts with
    | cons hpart hmore =>
      obtain ⟨t, u, v, x, hnext, hkey, hcolon, hv, hends, hrest⟩ :=
        exists_nextKey hpart hvalue.skips.starts hlines
      rw [members_skip hnext hkey hcolon (find?_eq_none hname) (skip_wellFormed hvalue hends hv)]
      exact ih hmore hrest

theorem Fills.starts (h : Fills fields d ms e) : ∀ m ∈ ms, Starts m.2 := by
  induction h with
  | done => exact List.forall_mem_nil _
  | field _ _ hread _ ih => exact List.forall_mem_cons.mpr ⟨hread.starts, ih⟩
  | other _ hvalue _ ih => exact List.forall_mem_cons.mpr ⟨hvalue.skips.starts, ih⟩

/-- A record is read from every text that gives its fields. -/
theorem reads_reader {f : Format σ α} {given : List (String × String)} {text : String} {a : α}
    (h : RecordText (f.fields.map Field.name) given text) (hfields : Independent f.fields)
    (hfills : Fills f.fields f.blank given d) (hfinish : f.finish d = .ok a) :
    f.reader.Reads text a := by
  obtain ⟨others, members, parts, hothers, hperm, hparts, hbrackets⟩ := h
  have hmembers := (hfills.append hothers).perm hfields hperm.symm
  have hvisible := forall_mem_parts ((List.forall₂_and_left _ _).mpr ⟨hmembers.starts, hparts⟩)
    fun _ _ ⟨hstarts, hpart⟩ => hpart.visible hstarts
  have hencloses := hbrackets.encloses_object hvisible
  refine ⟨hencloses.starts rfl (by decide), ?_⟩
  intro s rest _ hs
  obtain ⟨t, ht, hlines⟩ := hencloses rest
  rw [ht] at hs
  rw [reader]
  simp only [hs, if_true, members_lines hmembers hparts hlines, hfinish, List.tail_cons]

end Format

end BlockCoverage.Json
