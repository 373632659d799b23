import JobGate.Address

/-!
The texts of addresses. Whatever groups of zeros are left out, an address is written in hexadecimal
digits, points and colons, and something is written (`spelt_text`, `text_ne_empty`).
-/
namespace JobGate
namespace HostAddress

/-- The characters that texts of addresses are made of. -/
def textChars : List Char := "0123456789abcdef.:".toList

/-- The text is made of these characters. -/
def Spelt (s : String) : Prop := ∀ c ∈ s.toList, c ∈ textChars

instance (s : String) : Decidable (Spelt s) :=
  decidable_of_iff (s.toList.all textChars.contains = true) (by simp [Spelt])

theorem digitChar_mem_textChars {n : Nat} (small : n < 16) : n.digitChar ∈ textChars := by
  have each : ∀ d : Fin 16, (d : Nat).digitChar ∈ textChars := by decide
  exact each ⟨n, small⟩

theorem spelt_toDigits {base : Nat} (two : 1 < base) (small : base ≤ 16) (n : Nat) :
    ∀ c ∈ Nat.toDigits base n, c ∈ textChars := by
  induction n using Nat.strongRecOn with
  | ind n ih =>
    by_cases last : n < base
    · rw [Nat.toDigits_of_lt_base last]
      simpa using digitChar_mem_textChars (by omega : n < 16)
    · have shorter : n / base < n := Nat.div_lt_self (by omega) two
      have digit : n % base < 16 := Nat.lt_of_lt_of_le (Nat.mod_lt n (by omega)) small
      rw [Nat.toDigits_of_base_le two (by omega)]
      intro c among
      rcases List.mem_append.mp among with front | back
      · exact ih _ shorter c front
      · obtain rfl := List.mem_singleton.mp back
        exact digitChar_mem_textChars digit

theorem Spelt.append {s t : String} (front : Spelt s) (back : Spelt t) : Spelt (s ++ t) := by
  intro c among
  rw [String.toList_append, List.mem_append] at among
  exact among.elim (front c) (back c)

theorem spelt_intercalate {mark : String} {parts : List String} (marks : Spelt mark)
    (spelt : ∀ part ∈ parts, Spelt part) : Spelt (String.intercalate mark parts) := by
  rw [Spelt, String.toList_intercalate]
  induction parts with
  | nil => exact nofun
  | cons part rest ih =>
    have here := spelt part (.head _)
    have later := ih fun other among => spelt other (.tail _ among)
    cases rest with
    | nil => rwa [List.map_singleton, List.intercalate_singleton]
    | cons next others =>
      rw [List.map_cons, List.map_cons, List.intercalate_cons_cons]
      intro c among
      rcases List.mem_append.mp among with among | among
      · rcases List.mem_append.mp among with among | among
        · exact here c among
        · exact marks c among
      · exact later c among

theorem intercalate_ne_empty {mark part : String} {rest : List String} (filled : part ≠ "") :
    String.intercalate mark (part :: rest) ≠ "" := by
  rw [ne_eq, ← String.toList_inj, String.toList_intercalate]
  cases rest with
  | nil => simpa using filled
  | cons next others => simp [List.intercalate_cons_cons, filled]

theorem spelt_octetsText (a b c d : UInt8) : Spelt (octetsText a b c d) := by
  refine spelt_intercalate (by decide) fun part among => ?_
  obtain ⟨o, _, rfl⟩ := List.mem_map.mp among
  rw [Spelt, Nat.toString_eq_ofList_toDigits, String.toList_ofList]
  exact spelt_toDigits (by decide) (by decide) _

theorem octetsText_ne_empty (a b c d : UInt8) : octetsText a b c d ≠ "" :=
  intercalate_ne_empty (by simp)

theorem spelt_groupsText (groups : List UInt16) : Spelt (groupsText groups) := by
  refine spelt_intercalate (by decide) fun part among => ?_
  obtain ⟨g, _, rfl⟩ := List.mem_map.mp among
  rw [Spelt, String.toList_ofList]
  exact spelt_toDigits (by decide) (by decide) _

theorem groupsText_ne_empty {groups : List UInt16} (some : groups ≠ []) :
    groupsText groups ≠ "" := by
  cases groups with
  | nil => exact absurd rfl some
  | cons g rest => exact intercalate_ne_empty (by simp)

theorem spelt_groupsAddressText (groups : List UInt16) : Spelt (groupsAddressText groups) := by
  unfold groupsAddressText
  split
  · exact .append (by decide) (spelt_octetsText _ _ _ _)
  · split
    split
    · exact .append (.append (spelt_groupsText _) (by decide)) (spelt_groupsText _)
    · exact spelt_groupsText _

theorem groupsAddressText_ne_empty {groups : List UInt16} (some : groups ≠ []) :
    groupsAddressText groups ≠ "" := by
  unfold groupsAddressText
  split
  · simp
  · split
    split
    · simp
    · exact groupsText_ne_empty some

theorem spelt_text (host : HostAddress) : Spelt host.text := by
  cases host with
  | v4 a b c d => exact spelt_octetsText a b c d
  | v6 groups => exact spelt_groupsAddressText groups.toList

theorem text_ne_empty (host : HostAddress) : host.text ≠ "" := by
  cases host with
  | v4 a b c d => exact octetsText_ne_empty a b c d
  | v6 groups => exact groupsAddressText_ne_empty (by simp)

end HostAddress
end JobGate
