import JobGate.Payload
import JobGate.Proofs.Envelopes

/-!
What the descriptions of tokens say. A text that decodes as an identity is an object with the four
declared members, each of which may be absent, and all its other members stay with the identity
(`decodeBytes_identity`). The secret is one of these: the document of an identity without it has no
such member (`toJson_withoutSecret`), and two descriptions that differ only in it are of the same
identity (`withoutSecret_congr`).
-/
namespace JobGate

open RecordView (adds_of_once adds_of_rest)

namespace Identity

/-- The member that holds the secret of a token. -/
def secretMember : String := "SecretID"

/-- The members with a meaning are declared, all else is not. -/
def view : RecordView Slots where
  declared := declared
  held slots name :=
    if name = "AccessorID" then slots.accessorId.map .string
    else if name = "Name" then slots.name.map .string
    else if name = "Type" then slots.kind.map .string
    else slots.policies.map Json.ofStrings
  rest slots := slots.other

theorem steps_read : view.Steps Slots.read := by
  intro room slots after key d run
  by_cases accessor : key = "AccessorID"
  · subst accessor
    rw [Slots.read, if_pos rfl] at run
    obtain ⟨filled, once, run⟩ := bind_ok run
    obtain rfl : { slots with accessorId := filled } = after := Except.ok.inj run
    exact adds_of_once Decoder.faithful_string once (by simp [view, declared]) (by simp [view])
      (by simp [view, declared]) rfl
  · by_cases named : key = "Name"
    · subst named
      rw [Slots.read, if_neg accessor, if_pos rfl] at run
      obtain ⟨filled, once, run⟩ := bind_ok run
      obtain rfl : { slots with name := filled } = after := Except.ok.inj run
      exact adds_of_once Decoder.faithful_string once (by simp [view, declared]) (by simp [view])
        (by simp [view, declared]) rfl
    · by_cases typed : key = "Type"
      · subst typed
        rw [Slots.read, if_neg accessor, if_neg named, if_pos rfl] at run
        obtain ⟨filled, once, run⟩ := bind_ok run
        obtain rfl : { slots with kind := filled } = after := Except.ok.inj run
        exact adds_of_once Decoder.faithful_string once (by simp [view, declared])
          (by simp [view]) (by simp [view, declared]) rfl
      · by_cases ruled : key = "Policies"
        · subst ruled
          rw [Slots.read, if_neg accessor, if_neg named, if_neg typed, if_pos rfl] at run
          obtain ⟨filled, once, run⟩ := bind_ok run
          obtain rfl : { slots with policies := filled } = after := Except.ok.inj run
          exact adds_of_once Decoder.faithful_strings once (by simp [view, declared])
            (by simp [view]) (by simp [view, declared]) rfl
        · rw [Slots.read, if_neg accessor, if_neg named, if_neg typed, if_neg ruled] at run
          obtain ⟨value, decoded, run⟩ := bind_ok run
          obtain rfl : { slots with other := slots.other ++ [(key, value)] } = after :=
            Except.ok.inj run
          exact adds_of_rest decoded (by simp [view, declared, accessor, named, typed, ruled]) rfl
            rfl

/-- A text that decodes as an identity is an object with what the identity declares, where it may
    be absent, and with all that the identity keeps. -/
theorem decodeBytes_identity {body : Bytes} {identity : Identity}
    (decoded : decodeBytes Identity.decoder body = .ok identity) :
    ∃ pairs, decodeBytes Decoder.pairs body = .ok pairs ∧
      ((Members.ofPairs pairs).get? "AccessorID").getD (.string "") =
        .string identity.accessorId ∧
      ((Members.ofPairs pairs).get? "Name").getD (.string "") = .string identity.name ∧
      ((Members.ofPairs pairs).get? "Type").getD (.string "") = .string identity.kind ∧
      ((Members.ofPairs pairs).get? "Policies").getD (.array []) =
        Json.ofStrings identity.policies ∧
      identity.other = (Members.ofPairs pairs).without declared := by
  have fresh : view.Keeps {} [] := ⟨by simp [view, declared], rfl⟩
  obtain ⟨pairs, slots, paired, keeps, closed⟩ := view.decodeBytes_record steps_read fresh decoded
  obtain rfl : _ = identity := Except.ok.inj closed
  refine ⟨pairs, paired, ?_, ?_, ?_, ?_, keeps.without⟩
  · rw [keeps.get? (by simp [view, declared])]
    cases there : slots.accessorId <;> simp [view, there]
  · rw [keeps.get? (by simp [view, declared])]
    cases there : slots.name <;> simp [view, there]
  · rw [keeps.get? (by simp [view, declared])]
    cases there : slots.kind <;> simp [view, there]
  · rw [keeps.get? (by simp [view, declared])]
    cases there : slots.policies <;> simp [view, there, Json.ofStrings]

/-- However often and wherever the secret stands in a description, the document of the identity has
    no member for it. -/
theorem toJson_withoutSecret {body : Bytes} {described : Identity}
    (decoded : decodeBytes Identity.decoder body = .ok described) :
    ∃ members : Members, described.withoutSecret.toJson = .object members ∧
      members.get? secretMember = none := by
  obtain ⟨pairs, _, _, _, _, _, other⟩ := decodeBytes_identity decoded
  have once : described.other.keys.Nodup := by
    rw [other]
    exact Members.nodup_keys_without (Members.nodup_keys_ofPairs pairs) declared
  have left : described.withoutSecret.other.get? secretMember = none := Members.get?_erase once _
  refine ⟨_, rfl, ?_⟩
  rw [Members.get?_append, left]
  simp [Members.get?, secretMember]

/-- Descriptions that differ in the secret only are of the same identity. -/
theorem withoutSecret_congr {body back : Bytes} {described also : Identity}
    {pairs others : Members} (decoded : decodeBytes Identity.decoder body = .ok described)
    (redecoded : decodeBytes Identity.decoder back = .ok also)
    (paired : decodeBytes Decoder.pairs body = .ok pairs)
    (repaired : decodeBytes Decoder.pairs back = .ok others)
    (differ : Members.DifferAt secretMember pairs others) :
    described.withoutSecret = also.withoutSecret := by
  obtain ⟨_, paired', accessor, name, kind, policies, other⟩ := decodeBytes_identity decoded
  obtain rfl := Except.ok.inj (paired.symm.trans paired')
  obtain ⟨_, repaired', accessor', name', kind', policies', other'⟩ :=
    decodeBytes_identity redecoded
  obtain rfl := Except.ok.inj (repaired.symm.trans repaired')
  have same {key : String} (declared : key ≠ secretMember) := differ.ofPairs.get? declared
  rw [same (by decide), accessor'] at accessor
  rw [same (by decide), name'] at name
  rw [same (by decide), kind'] at kind
  rw [same (by decide), policies'] at policies
  have kept : Members.DifferAt secretMember described.other also.other := by
    rw [other, other']
    exact differ.ofPairs.filter (!declared.contains ·)
  have once : described.other.keys.Nodup := by
    rw [other]
    exact Members.nodup_keys_without (Members.nodup_keys_ofPairs pairs) declared
  have left : described.withoutSecret.other = also.withoutSecret.other := kept.erase once
  obtain ⟨_, _, _, _, _⟩ := described
  obtain ⟨_, _, _, _, _⟩ := also
  obtain rfl := Json.string.inj accessor
  obtain rfl := Json.string.inj name
  obtain rfl := Json.string.inj kind
  obtain rfl := ofStrings_injective policies
  simpa [withoutSecret] using left

end Identity
end JobGate
