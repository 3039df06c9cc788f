import BlockCoverage.Files.Tree
import Mathlib.Data.List.Forall2

/-!
# Files up to their numbers

The number of a file says nothing about it but which names stand for the same file. Two trees are
*alike* when they have the same names, and a renumbering pairs off what the names stand for, so that
paired files have the same contents. Files without a name do not take part: a tree from which a file
has been removed is like one that never had it.

Alike trees cannot be told apart by walking or reading (`Related.reach`, `Related.read`), and
removing and writing keep them alike. Writing may add a file to both, each with its next number; the
renumbering then grows by that pair, which is why the lemmas on writing give a larger one.
-/

namespace BlockCoverage

open Text (Bytes)

namespace OrderedMap

variable {κ α β : Type} [Ord κ] {R : α → β → Prop}

/-- Bindings of the same key to related values. -/
def Binds (R : α → β → Prop) (d : κ × α) (e : κ × β) : Prop := d.1 = e.1 ∧ R d.2 e.2

theorem rel_lookup {l : List (κ × α)} {l' : List (κ × β)} (h : List.Forall₂ (Binds R) l l')
    (k : κ) :
    Option.Rel R (lookup k l) (lookup k l') := by
  induction h with
  | nil => exact .none
  | cons hd _ ih =>
    rw [lookup, lookup, hd.1]
    split
    · exact .some hd.2
    · exact ih

theorem rel_place {l : List (κ × α)} {l' : List (κ × β)} (h : List.Forall₂ (Binds R) l l') (k : κ)
    {a : α} {b : β} (hab : R a b) : List.Forall₂ (Binds R) (place k a l) (place k b l') := by
  induction h with
  | nil => exact .cons ⟨rfl, hab⟩ .nil
  | cons hd htail ih =>
    rw [place, place, hd.1]
    split
    · exact .cons ⟨rfl, hab⟩ (.cons hd htail)
    · exact .cons ⟨rfl, hab⟩ htail
    · exact .cons hd ih

end OrderedMap

/-- Names that stand for the same, up to the numbers of files and directories. -/
inductive Entry.Matches (r : Nat → Nat → Prop) : Entry → Entry → Prop where
  | file {a b : Nat} (h : r a b) : Matches r (.file a) (.file b)
  | directory {a b : Nat} (h : r a b) : Matches r (.directory a) (.directory b)
  | link (target : String) : Matches r (.link target) (.link target)
  | device (kind : Device) : Matches r (.device kind) (.device kind)

theorem Entry.Matches.mono {r s : Nat → Nat → Prop} (hle : ∀ a b, r a b → s a b) {d e : Entry}
    (h : d.Matches r e) : d.Matches s e := by
  cases h with
  | file h => exact .file (hle _ _ h)
  | directory h => exact .directory (hle _ _ h)
  | link target => exact .link target
  | device kind => exact .device kind

namespace Files

/-- The renumbering `r` takes one tree to the other. -/
structure Related (r : Nat → Nat → Prop) (fs gs : Files) : Prop where
  /-- The same names stand for the same. -/
  names : List.Forall₂ (OrderedMap.Binds (Entry.Matches r)) fs.names.entries gs.names.entries
  /-- Relative paths start from the same directory. -/
  here : r fs.here gs.here
  /-- The root is the root. -/
  root : r 0 0
  /-- Numbers are paired off one by one. -/
  unique : Relator.BiUnique r
  /-- Only numbers in use are paired. -/
  used : ∀ {a b}, r a b → a < fs.inodes.size ∧ b < gs.inodes.size
  /-- Paired files are the same. -/
  inode : ∀ {a b}, r a b → fs.inode a = gs.inode b

/-- Some renumbering takes one tree to the other. -/
def Alike (fs gs : Files) : Prop := ∃ r, Related r fs gs

namespace Related

variable {r : Nat → Nat → Prop} {fs gs : Files} (h : Related r fs gs)

include h

/-! ## Looking -/

theorem entryAt? (loc : Location) :
    Option.Rel (Entry.Matches r) (fs.entryAt? loc) (gs.entryAt? loc) := by
  rw [Files.entryAt?, Files.entryAt?]
  split
  · exact .some (.directory h.root)
  · exact OrderedMap.rel_lookup h.names loc

theorem node? (loc : Location) : fs.node? loc = gs.node? loc := by
  rw [Files.node?, Files.node?]
  have hentry := h.entryAt? loc
  generalize fs.entryAt? loc = d, gs.entryAt? loc = e at hentry
  cases hentry with
  | none => rfl
  | some hmatches =>
    cases hmatches with
    | file hab => simp only [h.inode hab]
    | directory hab => rfl
    | link target => rfl
    | device kind => rfl

theorem obstacle? (loc : Location) : fs.obstacle? loc = gs.obstacle? loc := by
  rw [Files.obstacle?, Files.obstacle?]
  have hentry := h.entryAt? loc
  generalize fs.entryAt? loc = d, gs.entryAt? loc = e at hentry
  cases hentry with
  | none => rfl
  | some hmatches =>
    cases hmatches with
    | file hab | directory hab => simp only [h.inode hab]
    | link target => rfl
    | device kind => rfl

theorem locationOf? {a b : Nat} (hab : r a b) : fs.locationOf? a = gs.locationOf? b := by
  have hzero : a = 0 ↔ b = 0 :=
    ⟨fun ha => h.unique.2 (ha ▸ hab) h.root, fun hb => h.unique.1 (hb ▸ hab) h.root⟩
  have hfind : ∀ {l l' : List (Location × Entry)},
      List.Forall₂ (OrderedMap.Binds (Entry.Matches r)) l l' →
      (l.find? fun e => e.2 == .directory a).map Prod.fst =
        (l'.find? fun e => e.2 == .directory b).map Prod.fst := by
    intro l l' hl
    induction hl with
    | nil => rfl
    | @cons d e _ _ hd _ ih =>
      obtain ⟨k, d⟩ := d
      obtain ⟨k', e⟩ := e
      obtain ⟨rfl, hmatches⟩ := hd
      -- a directory has the one number just when its partner has the other
      have hsame : (d == .directory a) = (e == .directory b) := by
        cases hmatches with
        | directory hcd =>
          have hiff := Relator.rel_eq h.unique hcd hab
          simp [hiff]
        | file _ => rfl
        | link _ => rfl
        | device _ => rfl
      rw [List.find?_cons, List.find?_cons, hsame]
      cases e == .directory b with
      | true => rfl
      | false => exact ih
  rw [Files.locationOf?, Files.locationOf?, hfind h.names]
  by_cases ha : a = 0
  · rw [if_pos ha, if_pos (hzero.mp ha)]
  · rw [if_neg ha, if_neg fun hb => ha (hzero.mpr hb)]

/-! ## Walking -/

theorem walkWith (follow : Bool) (jump : Location → List String → Except IoCause Location)
    (loc : Location) (l : List String) :
    fs.walkWith follow jump loc l = gs.walkWith follow jump loc l := by
  induction l generalizing loc with
  | nil => rfl
  | cons part rest ih =>
    rw [Files.walkWith, Files.walkWith]
    have hentry := h.entryAt? loc
    have hnext := h.entryAt? (loc ++ [part])
    generalize fs.entryAt? loc = d, gs.entryAt? loc = e at hentry
    generalize fs.entryAt? (loc ++ [part]) = d', gs.entryAt? (loc ++ [part]) = e' at hnext
    -- the walk asks for the kind of what stands at a location, never for its number
    simp only [ih]
    cases hentry with
    | none => rfl
    | some hmatches =>
      cases hmatches with
      | file _ => rfl
      | link _ => rfl
      | device _ => rfl
      | directory _ =>
        cases hnext with
        | none => rfl
        | some hmatches => cases hmatches <;> rfl

theorem walk (follow : Bool) (n : Nat) (loc : Location) (l : List String) :
    fs.walk follow n loc l = gs.walk follow n loc l := by
  induction n generalizing loc l with
  | zero => exact h.walkWith follow _ loc l
  | succ n ih =>
    have hjump : fs.walk follow n = gs.walk follow n := funext fun loc => funext fun l => ih loc l
    rw [Files.walk, Files.walk, hjump]
    exact h.walkWith follow _ loc l

theorem follow (last : Bool) (path : String) (stretches : List String) :
    fs.follow last path stretches = gs.follow last path stretches := by
  rw [Files.follow, Files.follow, h.locationOf? h.here]
  simp only [h.walk]

theorem reach (path : String) : fs.reach path = gs.reach path := h.follow ..

theorem locate (path : String) : fs.locate path = gs.locate path := by
  rw [Files.locate, Files.locate, h.follow]
  cases gs.follow true path (Path.stretches path) with
  | error cause => rfl
  | ok loc =>
    simp only [Bind.bind, Except.bind]
    have hentry := h.entryAt? loc
    generalize fs.entryAt? loc = d, gs.entryAt? loc = e at hentry
    cases hentry with
    | none => rfl
    | some hmatches => cases hmatches <;> rfl

theorem read (path : String) : fs.read path = gs.read path := by
  rw [Files.read, Files.read, h.locate]
  cases gs.locate path with
  | error cause => rfl
  | ok loc => simp only [Bind.bind, Except.bind, h.node? loc, h.obstacle? loc]

theorem locateForWriting (path : String) : fs.locateForWriting path = gs.locateForWriting path := by
  rw [Files.locateForWriting, Files.locateForWriting, h.follow, h.follow]
  split
  · rfl
  · cases gs.follow true path (Path.stretches path) with
    | error cause => rfl
    | ok loc =>
      simp only [Bind.bind, Except.bind]
      have hentry := h.entryAt? loc
      generalize fs.entryAt? loc = d, gs.entryAt? loc = e at hentry
      cases hentry with
      | none => rfl
      | some hmatches => cases hmatches <;> rfl

/-! ## Changing -/

theorem unbind (loc : Location) : Related r (fs.unbind loc) (gs.unbind loc) :=
  { h with
    names := List.rel_filter (fun d e hd => by
      show (compare loc d.1 != .eq) = true ↔ (compare loc e.1 != .eq) = true
      rw [hd.1]) h.names }

theorem withHere {a b : Nat} (hab : r a b) :
    Related r { fs with here := a } { gs with here := b } :=
  { h with here := hab }

theorem enter (loc : Location) : Related r (fs.enter loc) (gs.enter loc) := by
  rw [Files.enter, Files.enter]
  have hentry := h.entryAt? loc
  generalize fs.entryAt? loc = d, gs.entryAt? loc = e at hentry
  cases hentry with
  | none => exact h
  | some hmatches =>
    cases hmatches with
    | directory hab => exact h.withHere hab
    | file _ => exact h
    | link _ => exact h
    | device _ => exact h

theorem modifyInode {a b : Nat} (hab : r a b) (change : Inode → Inode) :
    Related r (fs.modifyInode a change) (gs.modifyInode b change) :=
  { h with
    used := fun hcd => by simpa [Files.modifyInode] using h.used hcd
    inode := fun {c d} hcd => by
      obtain ⟨hc, hd⟩ := h.used hcd
      have hsame : a = c ↔ b = d := Relator.rel_eq h.unique hab hcd
      have hinode := h.inode hcd
      simp only [Files.inode, Files.modifyInode, Array.getD_eq_getD_getElem?] at hinode ⊢
      rw [Array.getElem?_modify, Array.getElem?_modify]
      by_cases hac : a = c
      · rw [if_pos hac, if_pos (hsame.mp hac), Array.getElem?_eq_getElem hc,
          Array.getElem?_eq_getElem hd]
        rw [Array.getElem?_eq_getElem hc, Array.getElem?_eq_getElem hd] at hinode
        exact congrArg change hinode
      · rw [if_neg hac, if_neg fun hbd => hac (hsame.mpr hbd)]
        exact hinode }

/-- A renumbering with the pair of the next numbers. -/
theorem add (i : Inode) :
    ∃ s, (∀ a b, r a b → s a b) ∧ s fs.inodes.size gs.inodes.size ∧
      Related s (fs.add i).2 (gs.add i).2 := by
  refine ⟨fun a b => r a b ∨ a = fs.inodes.size ∧ b = gs.inodes.size, fun _ _ => .inl,
    .inr ⟨rfl, rfl⟩, ?_⟩
  have hle : ∀ a b, r a b → r a b ∨ a = fs.inodes.size ∧ b = gs.inodes.size := fun _ _ => .inl
  exact {
    names := h.names.imp fun _ _ hd => ⟨hd.1, hd.2.mono hle⟩
    here := .inl h.here
    root := .inl h.root
    unique := by
      -- the next numbers are not in use
      constructor
      · rintro a b c (hac | ⟨rfl, rfl⟩) (hbc | ⟨rfl, hc⟩)
        · exact h.unique.1 hac hbc
        · have := (h.used hac).2
          omega
        · have := (h.used hbc).2
          omega
        · rfl
      · rintro a b c (hab | ⟨rfl, rfl⟩) (hac | ⟨ha, rfl⟩)
        · exact h.unique.2 hab hac
        · have := (h.used hab).1
          omega
        · have := (h.used hac).1
          omega
        · rfl
    used := by
      rintro a b (hab | ⟨rfl, rfl⟩)
      · have := h.used hab
        simp only [Files.add, Array.size_push]
        omega
      · simp [Files.add]
    inode := by
      rintro a b (hab | ⟨rfl, rfl⟩)
      · obtain ⟨ha, hb⟩ := h.used hab
        have hinode := h.inode hab
        simp only [Files.inode, Files.add, Array.getD_eq_getD_getElem?] at hinode ⊢
        rw [Array.getElem?_push_lt ha, Array.getElem?_push_lt hb, ← Array.getElem?_eq_getElem ha,
          ← Array.getElem?_eq_getElem hb]
        exact hinode
      · simp [Files.inode, Files.add] }

theorem bind (loc : Location) {d e : Entry} (hde : d.Matches r e) :
    Related r (fs.bind loc d) (gs.bind loc e) :=
  { h with names := OrderedMap.rel_place h.names loc hde }

/-- Making a new file keeps trees alike. -/
theorem bind_add (i : Inode) (loc : Location) :
    ∃ s, (∀ a b, r a b → s a b) ∧
      Related s ((fs.add i).2.bind loc (.file fs.inodes.size))
        ((gs.add i).2.bind loc (.file gs.inodes.size)) := by
  obtain ⟨s, hle, hnew, hadd⟩ := h.add i
  exact ⟨s, hle, hadd.bind loc (.file hnew)⟩

theorem putFile (loc : Location) (contents : Bytes) :
    ∃ s, (∀ a b, r a b → s a b) ∧
      Related s (fs.put loc (.file contents)) (gs.put loc (.file contents)) := by
  unfold Files.put
  have hentry := h.entryAt? loc
  generalize fs.entryAt? loc = d, gs.entryAt? loc = e at hentry
  cases hentry with
  | none => exact h.bind_add _ loc
  | some hmatches =>
    cases hmatches with
    | file hab => exact ⟨r, fun _ _ => id, h.modifyInode hab _⟩
    | directory _ => exact h.bind_add _ loc
    | link _ => exact h.bind_add _ loc
    | device _ => exact ⟨r, fun _ _ => id, h⟩

/-- Writing fails in both trees, or keeps them alike. -/
theorem write (path : String) (contents : Bytes) :
    (∃ cause, fs.write path contents = .error cause ∧ gs.write path contents = .error cause) ∨
      ∃ fs' gs' s, fs.write path contents = .ok fs' ∧ gs.write path contents = .ok gs' ∧
        (∀ a b, r a b → s a b) ∧ Related s fs' gs' := by
  rw [Files.write, Files.write, h.locateForWriting]
  cases gs.locateForWriting path with
  | error cause => exact .inl ⟨cause, rfl, rfl⟩
  | ok loc =>
    obtain ⟨s, hle, hput⟩ := h.putFile loc contents
    exact .inr ⟨_, _, s, rfl, rfl, hle, hput⟩

/-- Removing fails in both trees, or keeps them alike. -/
theorem remove (path : String) :
    (∃ cause, fs.remove path = .error cause ∧ gs.remove path = .error cause) ∨
      ∃ fs' gs', fs.remove path = .ok fs' ∧ gs.remove path = .ok gs' ∧ Related r fs' gs' := by
  rw [Files.remove, Files.remove, h.reach]
  cases gs.reach path with
  | error cause => exact .inl ⟨cause, rfl, rfl⟩
  | ok loc =>
    simp only [Bind.bind, Except.bind]
    have hentry := h.entryAt? loc
    generalize fs.entryAt? loc = d, gs.entryAt? loc = e at hentry
    cases hentry with
    | none => exact .inl ⟨_, rfl, rfl⟩
    | some hmatches =>
      -- a directory stays, and of the rest what has no slash behind it goes
      cases hmatches <;> cases endsWithSlash path <;>
        first
        | exact .inl ⟨_, rfl, rfl⟩
        | exact .inr ⟨_, _, rfl, rfl, h.unbind loc⟩

end Related

end Files

end BlockCoverage
