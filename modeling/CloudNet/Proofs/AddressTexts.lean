import CloudNet.Proofs.Addresses
import CloudNet.Proofs.HardwareAddresses

/-!
# Addresses and their texts

Addresses, blocks and hardware addresses are written in one way each, and what is written is read
back. A block is read by two readers, one of which takes an address alone for the block of that
address.

* `Cidr.ofText?_text`, `Cidr.ofBlockOrAddress?_text`: a block is read from its text by both.
* `Cidr.ofBlockOrAddress?_dotted`: an address alone is the smallest block.
* `addresses_read_back`: all kinds of addresses. Of a hardware address only the low 48 bits are
  written, so it is read back if it has no others.
-/

namespace CloudNet

namespace Cidr

/-- A length is written with digits. -/
theorem byte?_decimal (n : UInt8) : Text.byte? 10 (Text.decimal n.toNat).toList = some n := by
  have hplus : Text.dropPlus (Text.decimal n.toNat).toList = (Text.decimal n.toNat).toList := by
    unfold Text.dropPlus
    split
    · next rest h =>
      have hdigit : Text.isDigit '+' = true :=
        Text.isDigit_of_mem_decimal (h ▸ List.mem_cons_self)
      exact absurd hdigit (by decide)
    · rfl
  rw [Text.byte?_eq_some_iff, hplus, Text.natural?_decimal]

theorem toList_text (c : Cidr) :
    c.text.toList = c.address.dotted.toList ++ '/' :: (Text.decimal c.length.toNat).toList := by
  unfold text
  rw [String.toList_append, String.toList_append, List.append_assoc]
  rfl

/-- The text of a block has no blanks. -/
theorem trimChars_text (c : Cidr) : Text.trimChars c.text.toList = c.text.toList := by
  have hlength : IsLength (Text.decimal c.length.toNat).toList :=
    isLength_of_byte? (byte?_decimal c.length) c.length_le
  have hwritten : Written c.text.toList := by
    rw [toList_text]
    exact .block c.address hlength
  exact Text.trimChars_of_no_blank fun _ => hwritten.not_isBlank_of_mem

/-- **A block is read from its text.** -/
theorem ofText?_text (c : Cidr) : ofText? c.text = some c := by
  unfold ofText?
  rw [trimChars_text, toList_text, Text.cutAt_append (notMem_dotted _)]
  simp only [Option.bind_eq_bind, Option.bind_some, Ipv4.ofDotted?_dotted, byte?_decimal]
  exact dif_pos c.length_le

/-- A reader that takes addresses as well reads it, too. -/
theorem ofBlockOrAddress?_text (c : Cidr) : ofBlockOrAddress? c.text = some c := by
  have hslash : '/' ∈ Text.trimChars c.text.toList := by
    rw [trimChars_text, toList_text]
    exact List.mem_append_right _ List.mem_cons_self
  unfold ofBlockOrAddress?
  rw [if_pos hslash, ofText?_text]

/-- **An address alone is the smallest block.** -/
theorem ofBlockOrAddress?_dotted (a : Ipv4) :
    ofBlockOrAddress? a.dotted = some ⟨a, Ipv4.maxMaskLength, Nat.le_refl _⟩ := by
  have hslash : '/' ∉ Text.trimChars a.dotted.toList := fun h =>
    notMem_dotted a ((Text.padded_trimChars _).mem h)
  unfold ofBlockOrAddress?
  rw [if_neg hslash, Ipv4.ofText?_dotted]
  rfl

end Cidr

/-- **What is written of an address is read back**: addresses from their dotted quads, blocks from
their texts by both readers, and addresses alone as blocks of the greatest length. A hardware
address is read back from its text if and only if it has 48 bits. -/
theorem addresses_read_back :
    (∀ a : Ipv4, Ipv4.ofText a.dotted = a) ∧
    (∀ c : Cidr, Cidr.ofText? c.text = some c ∧ Cidr.ofBlockOrAddress? c.text = some c) ∧
    (∀ a : Ipv4, Cidr.ofBlockOrAddress? a.dotted = some ⟨a, 32, by decide⟩) ∧
    ∀ m : Mac, Mac.ofText? m.text = some m ↔ m.value.toNat < 2 ^ 48 :=
  ⟨Ipv4.ofText_dotted, fun c => ⟨c.ofText?_text, c.ofBlockOrAddress?_text⟩,
    Cidr.ofBlockOrAddress?_dotted, fun _ => Mac.ofText?_text_eq_some_iff⟩

end CloudNet
