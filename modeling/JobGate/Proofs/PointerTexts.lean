import JobGate.Job.Pointer
import JobGate.Proofs.Pieces
import JobGate.Proofs.Results

/-!
The texts of pointers. A pointer is read from its own text, with or without the sign in front, and
from no other text (`Pointer.parse_ok_iff`), so the tokens of a pointer are what stands between the
slashes of its text with the escapes resolved.
-/
namespace JobGate

namespace Pointer

/-- What a character of a token is spelt as. -/
def spelt (c : Char) : List Char :=
  if c == '~' then ['~', '0'] else if c == '/' then ['~', '1'] else [c]

theorem escape_eq (token : String) : escape token = token.toList.flatMap spelt := rfl

theorem unescape_cons {c : Char} (plain : c ≠ '~') (cs : List Char) :
    unescape (c :: cs) = (unescape cs).map (c :: ·) := by
  rw [unescape]
  · simp [plain]
  · rintro rest rfl
    exact absurd rfl plain
  · rintro rest rfl
    exact absurd rfl plain

theorem unescape_spelt (cs : List Char) : unescape (cs.flatMap spelt) = some cs := by
  induction cs with
  | nil => rfl
  | cons c cs ih =>
    by_cases tilde : c = '~'
    · subst tilde
      simp [spelt, unescape, ih]
    · by_cases slash : c = '/'
      · subst slash
        simp [spelt, unescape, ih]
      · simp [spelt, tilde, slash, unescape_cons tilde, ih]

theorem spelt_whole (cs : List Char) : ∀ c ∈ cs.flatMap spelt, (c == '/') = false := by
  intro c among
  obtain ⟨d, _, among⟩ := List.mem_flatMap.mp among
  by_cases tilde : d = '~'
  · subst tilde
    rcases (by simpa [spelt] using among : c = '~' ∨ c = '0') with rfl | rfl
    · rfl
    · rfl
  · by_cases slash : d = '/'
    · subst slash
      rcases (by simpa [spelt] using among : c = '~' ∨ c = '1') with rfl | rfl
      · rfl
      · rfl
    · obtain rfl : c = d := by simpa [spelt, tilde, slash] using among
      simpa using slash

theorem spelt_of_unescape {cs token : List Char} (read : unescape cs = some token)
    (whole : ∀ c ∈ cs, (c == '/') = false) : token.flatMap spelt = cs := by
  induction cs using unescape.induct generalizing token with
  | case1 =>
    obtain rfl : [] = token := Option.some.inj read
    rfl
  | case2 rest ih =>
    obtain ⟨later, found, rfl⟩ := Option.map_eq_some_iff.mp read
    have again := ih found fun c among => whole c (.tail _ (.tail _ among))
    simp [spelt, again]
  | case3 rest ih =>
    obtain ⟨later, found, rfl⟩ := Option.map_eq_some_iff.mp read
    have again := ih found fun c among => whole c (.tail _ (.tail _ among))
    simp [spelt, again]
  | case4 c rest zero one tilde =>
    rw [unescape, if_pos tilde] at read
    · cases read
    · exact zero
    · exact one
  | case5 c rest zero one plain ih =>
    rw [unescape, if_neg plain] at read
    · obtain ⟨later, found, rfl⟩ := Option.map_eq_some_iff.mp read
      have again := ih found fun c among => whole c (.tail _ among)
      have inner : c ≠ '/' := by simpa using whole c (.head _)
      have other : c ≠ '~' := by simpa using plain
      simp [spelt, inner, other, again]
    · exact zero
    · exact one

/-- What the text of a pointer is made of. -/
def chars (p : Pointer) : List Char := p.flatMap fun token => '/' :: escape token

theorem splitWhere_chars (token : String) (rest : Pointer) :
    splitWhere (· == '/') (escape token ++ chars rest) = escape token :: rest.map escape := by
  induction rest generalizing token with
  | nil =>
    rw [chars, List.flatMap_nil, List.append_nil]
    exact splitWhere_whole (spelt_whole token.toList)
  | cons next others ih =>
    have cut := splitWhere_append (spelt_whole token.toList) (beq_self_eq_true '/')
      (escape next ++ chars others)
    rw [ih next] at cut
    exact cut

theorem mapM_unescape (p : Pointer) :
    (p.map escape).mapM (fun token => (unescape token).map String.ofList) = some p := by
  induction p with
  | nil => rfl
  | cons token rest ih =>
    rw [List.map_cons, List.mapM_cons, escape_eq, unescape_spelt, ih]
    simp

theorem tokens?_eq_some_iff {cs : List Char} {p : Pointer} :
    tokens? cs = some p ↔ '/' :: cs = chars p := by
  constructor
  · intro read
    have pieces : ∀ c ∈ splitWhere (· == '/') cs, ∀ x ∈ c, (x == '/') = false :=
      fun _ => whole_of_mem_splitWhere
    rw [← flatMap_splitWhere '/' cs]
    rw [tokens?] at read
    generalize splitWhere (· == '/') cs = cuts at read pieces
    induction cuts generalizing p with
    | nil =>
      obtain rfl : [] = p := Option.some.inj read
      rfl
    | cons piece rest ih =>
      rw [List.mapM_cons] at read
      obtain ⟨token, first, read⟩ := Option.bind_eq_some_iff.mp read
      obtain ⟨others, later, read⟩ := Option.bind_eq_some_iff.mp read
      obtain rfl : token :: others = p := Option.some.inj read
      obtain ⟨plain, found, rfl⟩ := Option.map_eq_some_iff.mp first
      have spelling := spelt_of_unescape found (pieces piece (.head _))
      rw [List.flatMap_cons, chars, List.flatMap_cons, escape_eq, String.toList_ofList, spelling,
        ih later fun c among => pieces c (.tail _ among), chars]
  · intro spelling
    cases p with
    | nil => cases spelling
    | cons token rest =>
      obtain rfl : cs = escape token ++ chars rest := (List.cons.inj spelling).2
      rw [tokens?, splitWhere_chars]
      exact mapM_unescape (token :: rest)

/-- Reads the text of a pointer behind the sign; `s` is the text that errors report. -/
def parseChars (s : String) : List Char → Decoded Pointer
  | [] => .ok []
  | '/' :: rest =>
    match tokens? rest with
    | some p => .ok p
    | none => .error (.pointerEscape s)
  | _ => .error (.pointerStart s)

theorem parse_eq (s : String) :
    parse s = parseChars s (match s.toList with | '#' :: rest => rest | cs => cs) := rfl

theorem parseChars_ok_iff {s : String} {cs : List Char} {p : Pointer} :
    parseChars s cs = .ok p ↔ cs = chars p := by
  cases cs with
  | nil =>
    cases p with
    | nil => exact ⟨fun _ => rfl, fun _ => rfl⟩
    | cons token rest => exact ⟨nofun, nofun⟩
  | cons c rest =>
    by_cases slash : c = '/'
    · subst slash
      rw [← tokens?_eq_some_iff]
      rcases read : tokens? rest with _ | found
      · simp [parseChars, read]
      · simp [parseChars, read]
    · constructor
      · intro read
        rw [parseChars] at read
        · cases read
        · exact nofun
        · intro _ same
          exact slash (List.cons.inj same).1
      · intro spelling
        cases p with
        | nil => cases spelling
        | cons token more => exact absurd (List.cons.inj spelling).1 slash

/-- A pointer is read from its text, with or without the sign in front. -/
theorem parse_ok_iff {s : String} {p : Pointer} :
    parse s = .ok p ↔ s = p.text ∨ s = "#" ++ p.text := by
  have bare : s = p.text ↔ s.toList = chars p := by
    rw [text, ← String.toList_inj, String.toList_ofList]
    rfl
  have marked : s = "#" ++ p.text ↔ s.toList = '#' :: chars p := by
    rw [text, ← String.toList_inj, String.toList_append, String.toList_ofList, String.toList_ofList]
    rfl
  rw [bare, marked, parse_eq]
  -- no text of a pointer starts with the sign itself
  have plain : ∀ rest, chars p ≠ '#' :: rest := by
    intro rest
    cases p with
    | nil => exact nofun
    | cons token others => exact fun same => absurd (List.cons.inj same).1 (by decide)
  generalize s.toList = cs
  cases cs with
  | nil =>
    rw [parseChars_ok_iff]
    simp
  | cons c rest =>
    by_cases sign : c = '#'
    · subst sign
      rw [parseChars_ok_iff, List.cons.injEq]
      constructor
      · intro spelling
        exact .inr ⟨rfl, spelling⟩
      · rintro (spelling | ⟨-, spelling⟩)
        · exact absurd spelling.symm (plain rest)
        · exact spelling
    · have kept : (match c :: rest with | '#' :: rest => rest | cs => cs) = c :: rest := by
        split
        · next _ same => exact absurd (List.cons.inj same).1 sign
        · rfl
      rw [kept, parseChars_ok_iff]
      simp [sign]

end Pointer
end JobGate
