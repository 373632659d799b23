import JobGate.Report
import Mathlib.Data.List.Infix

/-!
Texts that list items behind a bullet, read back. `piecesAt` cuts a text wherever a sequence stands
in it, from the left. A bullet starts with a character that does not come again in it, so none can
begin in an item or in a bullet and end in the next (`not_isPrefix_across`): the pieces of a list
are its heading and its items if none of them contains the bullet (`cutAt_listed`). That holds of
the warnings and of the causes alike (`lists_read_back`).
-/
namespace JobGate

section
variable {α : Type} [DecidableEq α] {mark : List α}

/-- The pieces of a list between the places where the mark stands, the first place first. So many
    items of a place that was found are still to be passed over. -/
def cutAt (mark : List α) : Nat → List α → List (List α)
  | _, [] => [[]]
  | behind + 1, _ :: rest => cutAt mark behind rest
  | 0, x :: rest =>
    if mark <+: x :: rest then [] :: cutAt mark (mark.length - 1) rest
    else match cutAt mark 0 rest with
      | [] => [[x]]
      | first :: others => (x :: first) :: others

theorem cutAt_behind (behind rest : List α) :
    cutAt mark behind.length (behind ++ rest) = cutAt mark 0 rest := by
  induction behind with
  | nil => rfl
  | cons x behind ih => exact ih

theorem cutAt_passing {x : α} {rest : List α} (passing : ¬ mark <+: x :: rest) {first : List α}
    {others : List (List α)} (pieces : cutAt mark 0 rest = first :: others) :
    cutAt mark 0 (x :: rest) = (x :: first) :: others := by
  rw [cutAt, if_neg passing, pieces]

theorem cutAt_whole {piece : List α} (none : ¬ mark <:+: piece) :
    cutAt mark 0 piece = [piece] := by
  induction piece with
  | nil => rfl
  | cons x rest ih =>
    rw [List.infix_cons_iff, not_or] at none
    exact cutAt_passing none.1 (ih none.2)

/-- The pieces do not contain the mark, and the text begins with the first of them. -/
theorem cutAt_spec (marked : mark ≠ []) (text : List α) (behind : Nat) :
    ∃ first others, cutAt mark behind text = first :: others ∧ (behind = 0 → first <+: text) ∧
      ∀ piece ∈ first :: others, ¬ mark <:+: piece := by
  have empty : ∀ piece ∈ [([] : List α)], ¬ mark <:+: piece := by simpa using marked
  induction text generalizing behind with
  | nil => exact ⟨[], [], by cases behind <;> rfl, fun _ => List.nil_prefix, empty⟩
  | cons x rest ih =>
    cases behind with
    | succ behind =>
      obtain ⟨first, others, pieces, -, clean⟩ := ih behind
      exact ⟨first, others, pieces, nofun, clean⟩
    | zero =>
      by_cases here : mark <+: x :: rest
      · obtain ⟨first, others, pieces, -, clean⟩ := ih (mark.length - 1)
        refine ⟨[], first :: others, ?_, fun _ => List.nil_prefix, ?_⟩
        · rw [cutAt, if_pos here, pieces]
        · exact List.forall_mem_cons.mpr ⟨empty _ (.head _), clean⟩
      · obtain ⟨first, others, pieces, begins, clean⟩ := ih 0
        have begins : x :: first <+: x :: rest := List.cons_prefix_cons.mpr ⟨rfl, begins rfl⟩
        refine ⟨x :: first, others, cutAt_passing here pieces, fun _ => begins, ?_⟩
        obtain ⟨clean, later⟩ := List.forall_mem_cons.mp clean
        refine List.forall_mem_cons.mpr ⟨?_, later⟩
        rw [List.infix_cons_iff, not_or]
        exact ⟨fun there => here (there.trans begins), clean⟩

end

section
variable {α : Type} {m : α} {tail : List α} (single : m ∉ tail)
include single

/-- The mark does not begin inside a piece that is followed by the mark. -/
theorem not_isPrefix_across {x : α} {piece : List α} (none : ¬ m :: tail <:+: x :: piece)
    (rest : List α) : ¬ m :: tail <+: x :: piece ++ (m :: tail) ++ rest := by
  intro there
  have begins : x :: piece <+: x :: piece ++ (m :: tail) ++ rest := by
    rw [List.append_assoc]
    exact List.prefix_append _ _
  rcases List.prefix_or_prefix_of_prefix there begins with inside | ⟨more, same⟩
  · exact none inside.isInfix
  · cases more with
    | nil => exact none (same ▸ (List.append_nil _).symm ▸ List.infix_rfl)
    | cons y more =>
      -- the mark would go on with its own first character
      rw [← same, List.append_assoc, List.prefix_append_right_inj, same] at there
      obtain ⟨rfl, -⟩ := List.cons_prefix_cons.mp there
      have again : y ∈ tail := by simp [← (List.cons.inj same).2]
      exact single again

variable [DecidableEq α]

theorem cutAt_mark {piece : List α} (none : ¬ m :: tail <:+: piece) (rest : List α) :
    cutAt (m :: tail) 0 (piece ++ (m :: tail) ++ rest) = piece :: cutAt (m :: tail) 0 rest := by
  induction piece with
  | nil =>
    have here : m :: tail <+: m :: (tail ++ rest) := List.prefix_append (m :: tail) rest
    rw [List.nil_append, List.cons_append, cutAt, if_pos here, List.length_cons,
      Nat.add_sub_cancel, cutAt_behind]
  | cons x piece ih =>
    have passing := not_isPrefix_across single none rest
    rw [List.infix_cons_iff, not_or] at none
    exact cutAt_passing passing (ih none.2)

/-- The pieces of a list are its heading and its items, where none of these contains the bullet. -/
theorem cutAt_listed {heading : List α} (none : ¬ m :: tail <:+: heading) {items : List (List α)}
    (clean : ∀ item ∈ items, ¬ m :: tail <:+: item) :
    cutAt (m :: tail) 0 (heading ++ items.flatMap (m :: tail ++ ·)) = heading :: items := by
  induction items generalizing heading with
  | nil => simpa using cutAt_whole none
  | cons item items ih =>
    obtain ⟨first, later⟩ := List.forall_mem_cons.mp clean
    rw [List.flatMap_cons, ← List.append_assoc, ← List.append_assoc, List.append_assoc _ item,
      cutAt_mark single none, ih first later]

end

/-- The pieces of a text between the places where a sequence stands. -/
def piecesAt (mark text : String) : List String :=
  (cutAt mark.toList 0 text.toList).map String.ofList

/-- A text contains a sequence. -/
def Contains (text mark : String) : Prop := mark.toList <:+: text.toList

instance (text mark : String) : Decidable (Contains text mark) :=
  inferInstanceAs (Decidable (_ <:+: _))

/-- The number that the digits in front of a text spell. -/
def leadingNumber (text : String) : Nat :=
  Nat.ofDigitChars 10 (text.toList.takeWhile Char.isDigit) 0

/-- A text reads back as a list: behind a heading that counts the items, and has its own words for
    a single one, the items are the pieces between the bullets. -/
structure ReadsAsList (bullet one text : String) (items : List String) : Prop where
  count : leadingNumber text = items.length
  pieces : ∃ heading rest, text = heading ++ rest ∧ (heading = one ↔ items.length = 1) ∧
    piecesAt bullet text = heading :: items ∧ piecesAt bullet rest = "" :: items

/-- What a list is written with: a line that counts the items, with words for one and words for all
    other numbers, and a bullet. -/
structure ListStyle where
  one : String
  many : String
  bullet : String
  /-- The words are told from the number in front of them. -/
  blank : one.toList.head? = some ' ' ∧ many.toList.head? = some ' '
  /-- A bullet holds its first character once, and a character that is in no heading. -/
  bulleted : ∃ m tail, bullet.toList = m :: tail ∧ m ∉ tail ∧ '*' ∈ tail
  starless : '*' ∉ one.toList ∧ '*' ∉ many.toList

namespace ListStyle

variable (style : ListStyle) (n : Nat)

def heading : String := if n = 1 then "1" ++ style.one else toString n ++ style.many

def text (items : List String) : String :=
  style.heading items.length ++ String.join (items.map (style.bullet ++ ·))

theorem toList_heading : (style.heading n).toList =
    Nat.toDigits 10 n ++ (if n = 1 then style.one else style.many).toList := by
  by_cases single : n = 1
  · simp [heading, single, Nat.toDigits_of_lt_base]
  · simp [heading, single]

theorem leadingNumber_heading (rest : String) : leadingNumber (style.heading n ++ rest) = n := by
  have digits : ∀ d ∈ Nat.toDigits 10 n, d.isDigit = true := fun d there =>
    Nat.isDigit_of_mem_toDigits (by decide) (by decide) there
  obtain ⟨words, behind⟩ :
      ∃ words, (if n = 1 then style.one else style.many).toList = ' ' :: words := by
    obtain ⟨one, many⟩ := style.blank
    split
    · exact ⟨_, List.eq_cons_of_mem_head? one⟩
    · exact ⟨_, List.eq_cons_of_mem_head? many⟩
  rw [leadingNumber, String.toList_append, toList_heading, List.append_assoc,
    List.takeWhile_append_of_pos digits, behind, List.cons_append,
    List.takeWhile_cons_of_neg (by decide), List.append_nil, Nat.ofDigitChars_ten_toDigits]

theorem heading_eq_one_iff : style.heading n = "1" ++ style.one ↔ n = 1 := by
  constructor
  · intro same
    rw [← style.leadingNumber_heading n "", same]
    exact style.leadingNumber_heading 1 ""
  · rintro rfl
    rfl

theorem not_contains_heading : ¬ Contains (style.heading n) style.bullet := by
  obtain ⟨m, tail, bullet, -, star⟩ := style.bulleted
  intro there
  have inside : '*' ∈ (style.heading n).toList := there.subset (bullet ▸ .tail _ star)
  rw [toList_heading, List.mem_append] at inside
  rcases inside with digit | word
  · exact absurd (Nat.isDigit_of_mem_toDigits (by decide) (by decide) digit) (by decide)
  · split at word
    · exact style.starless.1 word
    · exact style.starless.2 word

theorem bullet_ne_nil : style.bullet.toList ≠ [] := by
  obtain ⟨m, tail, bullet, -⟩ := style.bulleted
  simp [bullet]

theorem piecesAt_listed {front : String} (none : ¬ Contains front style.bullet)
    {items : List String} (clean : ∀ item ∈ items, ¬ Contains item style.bullet) :
    piecesAt style.bullet (front ++ String.join (items.map (style.bullet ++ ·))) =
      front :: items := by
  obtain ⟨m, tail, bullet, single, -⟩ := style.bulleted
  have text : (front ++ String.join (items.map (style.bullet ++ ·))).toList =
      front.toList ++ (items.map String.toList).flatMap (m :: tail ++ ·) := by
    simp [← bullet, List.flatMap_map]
  have clean : ∀ item ∈ items.map String.toList, ¬ m :: tail <:+: item := by
    simpa [Contains, bullet] using clean
  rw [Contains, bullet] at none
  rw [piecesAt, text, bullet, cutAt_listed single none clean]
  simp [Function.comp_def]

theorem not_contains_of_mem_piecesAt {text piece : String} (among : piece ∈ piecesAt style.bullet text) :
    ¬ Contains piece style.bullet := by
  obtain ⟨first, others, pieces, -, clean⟩ := cutAt_spec style.bullet_ne_nil text.toList 0
  rw [piecesAt, pieces] at among
  obtain ⟨chars, there, rfl⟩ := List.mem_map.mp among
  simpa [Contains] using clean chars there

/-- A list reads back exactly if no item contains the bullet. -/
theorem readsAsList_iff (items : List String) :
    ReadsAsList style.bullet ("1" ++ style.one) (style.text items) items ↔
      ∀ item ∈ items, ¬ Contains item style.bullet := by
  constructor
  · rintro ⟨-, heading, rest, -, -, pieces, -⟩ item there
    have among : item ∈ piecesAt style.bullet (style.text items) := by
      rw [pieces]
      exact .tail _ there
    exact style.not_contains_of_mem_piecesAt among
  · intro clean
    have nothing : ¬ Contains "" style.bullet := by simpa [Contains] using style.bullet_ne_nil
    refine ⟨style.leadingNumber_heading _ _, style.heading items.length, _, rfl,
      style.heading_eq_one_iff _, style.piecesAt_listed (style.not_contains_heading _) clean, ?_⟩
    simpa using style.piecesAt_listed nothing clean

def warnings : ListStyle where
  one := " warning:\n"
  many := " warnings:\n"
  bullet := "\n* "
  blank := by decide
  bulleted := ⟨'\n', ['*', ' '], rfl, by decide, by decide⟩
  starless := by decide

def causes : ListStyle where
  one := " error occurred:"
  many := " errors occurred:"
  bullet := "\n\t* "
  blank := by decide
  bulleted := ⟨'\n', ['\t', '*', ' '], rfl, by decide, by decide⟩
  starless := by decide

end ListStyle

theorem combinedWarnings_eq {raised : List String} (some : raised ≠ []) (given : String) :
    combinedWarnings given raised = ListStyle.warnings.text (warningBullets given raised) := by
  rw [combinedWarnings, if_neg (by simpa using some)]
  rfl

theorem Causes.text_eq (causes : Causes) :
    causes.text = ListStyle.causes.text causes.list ++ "\n\n" := rfl

/-- The merged text of warnings and the text of causes read back as the lists that they are made of,
    exactly if no warning or cause contains the bullet. Without a warning raised here the text of the
    backend stays as it is. -/
theorem lists_read_back (given : String) (raised : List String) (causes : Causes) :
    combinedWarnings given [] = given ∧
      (raised ≠ [] → ∀ bullets, bullets = (if given = "" then raised else given :: raised) →
        (ReadsAsList "\n* " "1 warning:\n" (combinedWarnings given raised) bullets ↔
          ∀ bullet ∈ bullets, ¬ Contains bullet "\n* ")) ∧
      ∃ body, causes.text = body ++ "\n\n" ∧
        (ReadsAsList "\n\t* " "1 error occurred:" body causes.list ↔
          ∀ cause ∈ causes.list, ¬ Contains cause "\n\t* ") := by
  refine ⟨rfl, ?_, _, causes.text_eq, ListStyle.causes.readsAsList_iff causes.list⟩
  rintro some _ rfl
  have bullets : warningBullets given raised = if given = "" then raised else given :: raised := by
    by_cases empty : given = "" <;> simp [warningBullets, empty]
  rw [combinedWarnings_eq some, bullets]
  exact ListStyle.warnings.readsAsList_iff _

/-- A text of the backend that is a list itself, and ends as a bullet begins. -/
def listedReply : String := "1 error occurred:\n\t* disk is full\n*"

theorem nested_list_reads_back :
    (["no owner"] : List String) ≠ [] ∧
      (∀ bullet ∈ [listedReply, "no owner"], ¬ Contains bullet "\n* ") ∧
      ReadsAsList "\n* " "1 warning:\n" (combinedWarnings listedReply ["no owner"])
        [listedReply, "no owner"] ∧
      ∃ body, (Causes.mk ["no owner"]).text = body ++ "\n\n" ∧
        ReadsAsList "\n\t* " "1 error occurred:" body ["no owner"] := by
  have clean : ∀ bullet ∈ [listedReply, "no owner"], ¬ Contains bullet "\n* " := by decide
  obtain ⟨-, warnings, body, text, errors⟩ := lists_read_back listedReply ["no owner"] ⟨["no owner"]⟩
  exact ⟨by simp, clean, (warnings (by simp) _ rfl).mpr clean, body, text, errors.mpr (by decide)⟩

end JobGate
