/-!
# Cutting sequences

A sequence is cut at every separator; `n` separators give `n + 1` pieces, some of them empty. Words,
path components and lines are all pieces with the uninteresting ones left out.
-/

namespace BlockCoverage.Text

variable {α : Type}

/-- The runs between the elements that satisfy `cut`, empty runs included. -/
def pieces (cut : α → Bool) : List α → List (List α)
  | [] => [[]]
  | c :: rest =>
    if cut c then [] :: pieces cut rest
    else match pieces cut rest with
      | [] => [[c]]
      | p :: ps => (c :: p) :: ps

theorem pieces_ne_nil (cut : α → Bool) (s : List α) : pieces cut s ≠ [] := by
  cases s with
  | nil => simp [pieces]
  | cons c rest =>
    rw [pieces]
    split
    · simp
    · split <;> simp

/-- The non-empty runs between separators. -/
def words (cut : α → Bool) (s : List α) : List (List α) :=
  (pieces cut s).filter (fun p => !p.isEmpty)

/-- Whether `part` stands somewhere in a sequence. -/
def isWithin [BEq α] (part : List α) : List α → Bool
  | [] => part.isEmpty
  | c :: rest => part.isPrefixOf (c :: rest) || isWithin part rest

/-- Whether a text contains `part`. -/
def occursIn (part text : String) : Bool := isWithin part.toList text.toList

/-- Drops one `c` at the end, if there is one. -/
def dropLastIf [DecidableEq α] (c : α) (s : List α) : List α :=
  if s.getLast? = some c then s.dropLast else s

/-- Cuts at line feeds. A carriage return right before a line feed belongs to the line end; the text
after the last line feed is a line of its own unless it is empty, and is kept as it stands. -/
def linesOf [DecidableEq α] (feed ret : α) (s : List α) : List (List α) :=
  let all := pieces (fun c => decide (c = feed)) s
  let ended := all.dropLast.map (dropLastIf ret)
  match all.getLast? with
  | none => ended
  | some [] => ended
  | some last => ended ++ [last]

end BlockCoverage.Text
