import JobGate.Text.Classes
import Mathlib.Data.List.TakeWhile

/-!
Texts cut in pieces. The pieces of a text are what stands between two marks once the text itself
stands between two (`mem_splitWhere_iff`), and the comma-separated entries of a text are its pieces
but for the blanks around them (`mem_commaEntries_iff`). What is appended behind a comma is one
entry more (`commaEntries_append`).
-/
namespace JobGate

section
variable {α : Type} {cut : α → Bool}

theorem splitWhere_eq_splitOnP (xs : List α) : splitWhere cut xs = xs.splitOnP cut := by
  induction xs with
  | nil => rfl
  | cons x rest ih =>
    rw [splitWhere, List.splitOnP_cons_eq_if_modifyHead, ih]
    rcases cuts : rest.splitOnP cut with _ | ⟨first, others⟩
    · exact absurd cuts (List.splitOnP_ne_nil cut rest)
    · rfl

theorem splitWhere_ne_nil (xs : List α) : splitWhere cut xs ≠ [] := by
  rw [splitWhere_eq_splitOnP]
  exact List.splitOnP_ne_nil cut xs

theorem splitWhere_whole {piece : List α} (whole : ∀ x ∈ piece, cut x = false) :
    splitWhere cut piece = [piece] := by
  rw [splitWhere_eq_splitOnP, List.splitOnP_eq_singleton whole]

/-- A list is cut wherever there is a cut in it. -/
theorem splitWhere_cut {x : α} (here : cut x = true) (xs ys : List α) :
    splitWhere cut (xs ++ x :: ys) = splitWhere cut xs ++ splitWhere cut ys := by
  simp only [splitWhere_eq_splitOnP, List.splitOnP_append_cons xs ys here]

theorem splitWhere_append {piece : List α} (whole : ∀ x ∈ piece, cut x = false) {x : α}
    (here : cut x = true) (rest : List α) :
    splitWhere cut (piece ++ x :: rest) = piece :: splitWhere cut rest := by
  rw [splitWhere_cut here, splitWhere_whole whole, List.singleton_append]

theorem whole_of_mem_splitWhere {xs piece : List α} (among : piece ∈ splitWhere cut xs) :
    ∀ x ∈ piece, cut x = false := by
  induction xs generalizing piece with
  | nil =>
    obtain rfl : piece = [] := by simpa [splitWhere] using among
    exact nofun
  | cons x rest ih =>
    by_cases here : cut x
    · rw [splitWhere, if_pos here] at among
      rcases List.mem_cons.mp among with rfl | later
      · exact nofun
      · exact ih later
    · rw [splitWhere, if_neg here] at among
      rcases cuts : splitWhere cut rest with _ | ⟨first, others⟩
      · exact absurd cuts (splitWhere_ne_nil rest)
      · rw [cuts] at among ih
        rcases List.mem_cons.mp among with rfl | later
        · intro y inside
          rcases List.mem_cons.mp inside with rfl | inside
          · simpa using here
          · exact ih (.head _) y inside
        · exact ih (.tail _ later)

variable [BEq α] [LawfulBEq α] (mark : α)

/-- The pieces with the cuts between them are the whole again. -/
theorem flatMap_splitWhere (xs : List α) :
    (splitWhere (· == mark) xs).flatMap (mark :: ·) = mark :: xs := by
  induction xs with
  | nil => rfl
  | cons x rest ih =>
    by_cases here : x = mark
    · simp [splitWhere, here, ih]
    · rcases cuts : splitWhere (· == mark) rest with _ | ⟨first, others⟩
      · exact absurd cuts (splitWhere_ne_nil rest)
      · rw [cuts] at ih
        simpa [splitWhere, here, cuts] using ih

/-- What stands between two marks of a list, or between a mark and an end of it. -/
def Between (piece xs : List α) : Prop := mark :: (piece ++ [mark]) <:+: mark :: (xs ++ [mark])

theorem between_of_mem_splitWhere {piece xs : List α}
    (among : piece ∈ splitWhere (· == mark) xs) : Between mark piece xs := by
  obtain ⟨earlier, later, cuts⟩ := List.append_of_mem among
  have whole := flatMap_splitWhere mark xs
  rw [cuts, List.flatMap_append, List.flatMap_cons] at whole
  -- what follows the piece begins with a mark, be it the last one
  obtain ⟨behind, next⟩ : ∃ behind, later.flatMap (mark :: ·) ++ [mark] = mark :: behind := by
    cases later with
    | nil => exact ⟨[], rfl⟩
    | cons piece others => exact ⟨_, rfl⟩
  refine ⟨earlier.flatMap (mark :: ·), behind, ?_⟩
  calc earlier.flatMap (mark :: ·) ++ mark :: (piece ++ [mark]) ++ behind
      = earlier.flatMap (mark :: ·) ++ (mark :: piece ++ mark :: behind) := by simp
    _ = mark :: xs ++ [mark] := by rw [← next, ← whole]; simp
    _ = mark :: (xs ++ [mark]) := rfl

theorem mem_splitWhere_of_between {piece xs : List α} (whole : mark ∉ piece)
    (between : Between mark piece xs) : piece ∈ splitWhere (· == mark) xs := by
  obtain ⟨before, behind, same⟩ := between
  have cut (xs ys : List α) : splitWhere (· == mark) (xs ++ mark :: ys) =
      splitWhere (· == mark) xs ++ splitWhere (· == mark) ys := by
    rw [splitWhere_cut]
    exact beq_self_eq_true mark
  have solid : splitWhere (· == mark) piece = [piece] :=
    splitWhere_whole fun x inside => beq_false_of_ne (ne_of_mem_of_not_mem inside whole)
  -- both sides are cut at the marks: the piece is neither the first nor the last part
  have parts : splitWhere (· == mark) before ++ piece :: splitWhere (· == mark) behind =
      [] :: (splitWhere (· == mark) xs ++ [[]]) := by
    calc splitWhere (· == mark) before ++ piece :: splitWhere (· == mark) behind
        = splitWhere (· == mark) (before ++ mark :: (piece ++ mark :: behind)) := by
          rw [cut, cut, solid, List.singleton_append]
      _ = splitWhere (· == mark) ([] ++ mark :: (xs ++ mark :: [])) := by
          rw [List.nil_append, ← same]; simp
      _ = [] :: (splitWhere (· == mark) xs ++ [[]]) := by rw [cut, cut]; rfl
  rcases front : splitWhere (· == mark) before with _ | ⟨first, earlier⟩
  · exact absurd front (splitWhere_ne_nil before)
  · rcases List.eq_nil_or_concat (splitWhere (· == mark) behind) with none | ⟨later, last, back⟩
    · exact absurd none (splitWhere_ne_nil behind)
    · rw [front, back, List.concat_eq_append, ← List.cons_append, List.cons_append,
        ← List.append_assoc] at parts
      have inner := (List.append_inj' (List.cons.inj parts).2 rfl).1
      rw [← inner]
      exact List.mem_append_right _ (.head _)

end

section
variable {left right cs : List Char}

theorem dropWhile_blanks (blank : ∀ c ∈ left, isBlank c = true) (cs : List Char) :
    (left ++ cs).dropWhile isBlank = cs.dropWhile isBlank := by
  rw [List.dropWhile_append, List.dropWhile_eq_nil_iff.mpr blank, List.isEmpty_nil, if_pos rfl]

/-- A text is what is left of it without the blanks, and these. -/
theorem trimBlanks_spec (cs : List Char) : ∃ left right, cs = left ++ trimBlanks cs ++ right ∧
    (∀ c ∈ left, isBlank c = true) ∧ ∀ c ∈ right, isBlank c = true := by
  let front := cs.dropWhile isBlank
  refine ⟨cs.takeWhile isBlank, (front.reverse.takeWhile isBlank).reverse, ?_, ?_, ?_⟩
  · have back : trimBlanks cs ++ (front.reverse.takeWhile isBlank).reverse = front := by
      rw [trimBlanks, ← List.reverse_append, List.takeWhile_append_dropWhile, List.reverse_reverse]
    rw [List.append_assoc, back, List.takeWhile_append_dropWhile]
  · exact fun c among => List.mem_takeWhile_imp among
  · exact fun c among => List.mem_takeWhile_imp (List.mem_reverse.mp among)

/-- The text has no blank and no comma. -/
def Solid (cs : List Char) : Prop := ∀ c ∈ cs, isBlank c = false ∧ c ≠ ','

instance : DecidablePred Solid := fun cs => List.decidableBAll _ cs

theorem Solid.dropWhile (solid : Solid cs) : cs.dropWhile isBlank = cs := by
  cases cs with
  | nil => rfl
  | cons c rest => simp [(solid c (.head _)).1]

theorem Solid.append (front : Solid left) (back : Solid right) : Solid (left ++ right) :=
  fun c inside => (List.mem_append.mp inside).elim (front c) (back c)

theorem Solid.reverse (solid : Solid cs) : Solid cs.reverse :=
  fun c among => solid c (List.mem_reverse.mp among)

theorem Solid.trimBlanks (solid : Solid cs) (blankLeft : ∀ c ∈ left, isBlank c = true)
    (blankRight : ∀ c ∈ right, isBlank c = true) : trimBlanks (left ++ cs ++ right) = cs := by
  have blankReverse : ∀ c ∈ right.reverse, isBlank c = true :=
    fun c among => blankRight c (List.mem_reverse.mp among)
  rw [JobGate.trimBlanks, List.append_assoc, dropWhile_blanks blankLeft, List.dropWhile_append,
    solid.dropWhile]
  cases cs with
  | nil => simp [List.dropWhile_eq_nil_iff.mpr blankRight]
  | cons c rest =>
    rw [List.isEmpty_cons, if_neg Bool.false_ne_true, List.reverse_append,
      dropWhile_blanks blankReverse, solid.reverse.dropWhile, List.reverse_reverse]

/-- The text lists an entry: it stands between commas, or between a comma and an end of the text,
    but for blanks around it. -/
def Lists (text entry : List Char) : Prop :=
  ∃ left right, Between ',' (left ++ entry ++ right) text ∧ (∀ c ∈ left, isBlank c = true) ∧
    ∀ c ∈ right, isBlank c = true

theorem Lists.chars {text entry : List Char} (lists : Lists text entry) :
    ∀ c ∈ entry, c = ',' ∨ c ∈ text := by
  obtain ⟨left, right, between, -⟩ := lists
  intro c inside
  have among : c ∈ ',' :: (text ++ [',']) := between.subset (by simp [inside])
  simpa [or_comm, or_assoc] using among

theorem lists_of_mem_commaEntries {text entry : List Char} (among : entry ∈ commaEntries text) :
    Lists text entry := by
  obtain ⟨piece, cut, rfl⟩ := List.mem_map.mp among
  obtain ⟨left, right, same, blankLeft, blankRight⟩ := trimBlanks_spec piece
  exact ⟨left, right, same ▸ between_of_mem_splitWhere ',' cut, blankLeft, blankRight⟩

theorem mem_commaEntries_of_lists {text entry : List Char} (solid : Solid entry)
    (lists : Lists text entry) : entry ∈ commaEntries text := by
  obtain ⟨left, right, between, blankLeft, blankRight⟩ := lists
  have whole : ',' ∉ left ++ entry ++ right := by
    intro inside
    rcases List.mem_append.mp inside with inside | inside
    · rcases List.mem_append.mp inside with inside | inside
      · exact absurd (blankLeft _ inside) (by decide)
      · exact (solid _ inside).2 rfl
    · exact absurd (blankRight _ inside) (by decide)
  exact List.mem_map.mpr ⟨_, mem_splitWhere_of_between ',' whole between,
    solid.trimBlanks blankLeft blankRight⟩

theorem commaEntries_single {entry : List Char} (solid : Solid entry)
    (blank : ∀ c ∈ left, isBlank c = true) : commaEntries (left ++ entry) = [entry] := by
  have whole : ∀ c ∈ left ++ entry, (c == ',') = false := by
    intro c inside
    rcases List.mem_append.mp inside with inside | inside
    · refine beq_false_of_ne ?_
      rintro rfl
      exact absurd (blank _ inside) (by decide)
    · simpa using (solid c inside).2
  have trimmed : trimBlanks (left ++ entry ++ []) = entry := solid.trimBlanks blank nofun
  rw [List.append_nil] at trimmed
  rw [commaEntries, splitWhere_whole whole, List.map_singleton, trimmed]

/-- What is written behind a comma and a blank is one entry more. -/
theorem commaEntries_append {entry : List Char} (solid : Solid entry) (text : List Char) :
    commaEntries (text ++ [',', ' '] ++ entry) = commaEntries text ++ [entry] := by
  have single : commaEntries ([' '] ++ entry) = [entry] :=
    commaEntries_single solid fun c inside => List.mem_singleton.mp inside ▸ rfl
  rw [List.append_assoc, List.cons_append, commaEntries, splitWhere_cut rfl, List.map_append,
    ← commaEntries, ← commaEntries, single]

theorem commaEntries_ne_nil (text : List Char) : commaEntries text ≠ [] := by
  rw [commaEntries, ne_eq, List.map_eq_nil_iff]
  exact splitWhere_ne_nil text

end

end JobGate
