import BlockCoverage.Proofs.Text.Utf8
import BlockCoverage.Proofs.Text.Words
import BlockCoverage.Run.Host

/-!
# The arguments that name an input file

A template stands for its parts between blanks, each with the path of the input file in the place of
every pair of braces. The path is put in before the template is cut, so the parts come out as they
are meant just when nothing in the path is a cut itself: when the path is a word
(`fileArguments_eq_parts_iff`). A path with a blank falls apart, wherever the template has it.

For a word, cutting and putting in commute, piece by piece (`pieces_substitute`): a pair of braces
lies within one piece, and the path lengthens the piece that it is put in.
-/

namespace BlockCoverage

open Text (Bytes IsWord isBlank pieces splitBlank)

namespace InputDelivery

variable {path : List Char}

/-- No pair of braces starts where the second brace does not follow. -/
theorem substitute_cons {c : Char} {rest : List Char}
    (h : c = '\x7b' → rest.head? ≠ some '\x7d') :
    substitute path (c :: rest) = c :: substitute path rest := by
  rw [substitute]
  rintro tail rfl rfl
  exact h rfl rfl

theorem substitute_eq_nil_iff (hpath : path ≠ []) {part : List Char} :
    substitute path part = [] ↔ part = [] := by
  fun_cases substitute path part with
  | case1 rest => simp [hpath]
  | case2 c rest h => simp
  | case3 => simp

/-- Cutting a text with a word put in gives the pieces with the word put in. -/
theorem pieces_substitute (hpath : ∀ c ∈ path, isBlank c = false) (template : List Char) :
    pieces isBlank (substitute path template) =
      (pieces isBlank template).map (substitute path) := by
  fun_induction substitute path template with
  | case1 rest ih =>
    cases hrest : pieces isBlank rest with
    | nil => exact absurd hrest (Text.pieces_ne_nil _ _)
    | cons p ps =>
      have hword : ∀ c ∈ ['\x7b', '\x7d'], isBlank c = false :=
        List.forall_mem_cons.mpr ⟨rfl, List.forall_mem_singleton.mpr rfl⟩
      have hbraces : pieces isBlank ('\x7b' :: '\x7d' :: rest) = ('\x7b' :: '\x7d' :: p) :: ps :=
        Text.pieces_append_of_not_cut hword hrest
      rw [hrest] at ih
      rw [hbraces, Text.pieces_append_of_not_cut hpath ih]
      rfl
  | case2 c rest hpair ih =>
    rw [pieces, pieces]
    by_cases hc : isBlank c = true
    · rw [if_pos hc, if_pos hc, ih]
      rfl
    · rw [if_neg hc, if_neg hc, ih]
      cases hrest : pieces isBlank rest with
      | nil => exact absurd hrest (Text.pieces_ne_nil _ _)
      | cons p ps =>
        -- the piece goes on as the template does, so no pair of braces starts here either
        have hsame : substitute path (c :: p) = c :: substitute path p := by
          refine substitute_cons fun hbrace hhead => ?_
          obtain hempty | hstart := Text.head?_of_pieces_eq_cons hrest
          · rw [hempty] at hhead
            cases hhead
          · obtain ⟨tail, htail⟩ := List.head?_eq_some_iff.mp (hstart.symm.trans hhead)
            exact hpair tail hbrace htail
        rw [List.map_cons, List.map_cons, hsame]
  | case3 => rfl

/-- The parts of a template between blanks, each with the path put in. -/
def parts (template path : String) : List String :=
  (splitBlank template).map fun part => String.ofList (substitute path.toList part.toList)

theorem fileArguments_of_isWord {path : String} (h : IsWord path) (template : String) :
    fileArguments template path = parts template path := by
  have hne : path.toList ≠ [] := fun hnil => h.1 (String.toList_eq_nil_iff.mp hnil)
  have hkept : (fun p : List Char => !p.isEmpty) ∘ substitute path.toList =
      fun p : List Char => !p.isEmpty := by
    funext p
    rw [Function.comp_apply, Bool.eq_iff_iff]
    simp [substitute_eq_nil_iff hne]
  rw [fileArguments, splitBlank, String.toList_ofList, Text.words, pieces_substitute h.2,
    List.filter_map, hkept, parts, splitBlank, Text.words, List.map_map, List.map_map]
  refine List.map_congr_left fun p _ => ?_
  simp [Function.comp]

/-- The arguments are the parts of the template with the path put in, whatever the template, just
when the path is a word: when it is not empty and has no blank. -/
theorem fileArguments_eq_parts_iff (path : String) :
    (∀ template, fileArguments template path = parts template path) ↔ IsWord path := by
  refine ⟨fun hparts => ?_, fileArguments_of_isWord⟩
  -- a template that is a pair of braces and nothing else gives the path itself
  have hcut : splitBlank path = [path] := by
    have hpath : substitute path.toList "\x7b\x7d".toList = path.toList := List.append_nil _
    have hbraces := hparts "\x7b\x7d"
    rw [fileArguments, hpath, String.ofList_toList] at hbraces
    rw [hbraces, parts, show splitBlank "\x7b\x7d" = ["\x7b\x7d"] from by decide +kernel,
      List.map_singleton, hpath, String.ofList_toList]
  obtain ⟨_, _, _, _, hword, _⟩ := Text.exists_spaced hcut
  exact hword

/-- A blank in a directory on the way to the input file makes two arguments of its path. -/
theorem fileArguments_blank :
    parts "\x7b\x7d" "/tmp/my dir/.tmp0" = ["/tmp/my dir/.tmp0"] ∧
      fileArguments "\x7b\x7d" "/tmp/my dir/.tmp0" = ["/tmp/my", "dir/.tmp0"] := by
  decide +kernel

end InputDelivery

namespace TargetCommand

/-- On every host, a command whose input is in a file with a word for its path is started with the
parts of its template. -/
theorem launchOnFile_of_isWord {σ : Type} (h : Host σ) (c : TargetCommand)
    (observers : List (Observer σ)) (template : String) {path : String} (hword : IsWord path)
    (input : Bytes) {s s' : σ} (hfill : h.fill (Text.Utf8.encode path) input s = (none, s')) :
    c.launchOnFile h observers template (Text.Utf8.encode path) input s =
      c.launch h observers (InputDelivery.parts template path) none s' := by
  rw [launchOnFile, hfill]
  simp only [Text.Utf8.decode?_encode, InputDelivery.fileArguments_of_isWord hword]

end TargetCommand

end BlockCoverage
