import Mathlib.Tactic

/-!
# Encoders and decoders

An encoder and a decoder that may both refuse their input are inverse to each other if each of them
takes back what the other one gives (`InverseOn`). This holds if the encoder writes the image of the
values it accepts, if the decoder reads these images, and if what it reads has the input as its
image (`InverseOn.of_image`).
-/

variable {α β ε δ : Type} {D : α → Prop} {encode : α → Except ε β} {decode : β → Except δ α}

/-- On a domain, `decode` reads back what `encode` writes; and `encode` writes again what `decode`
has read, which lies in the domain. -/
structure InverseOn (D : α → Prop) (encode : α → Except ε β) (decode : β → Except δ α) : Prop where
  /-- What is written is read back. -/
  decode_encode : ∀ x b, D x → encode x = .ok b → decode b = .ok x
  /-- What is read is written again. -/
  encode_decode : ∀ b x, decode b = .ok x → encode x = .ok b
  /-- What is read lies in the domain. -/
  decoded : ∀ b x, decode b = .ok x → D x

/-- The encoder writes the images of the valid values, and the decoder reads them and nothing
else. -/
theorem InverseOn.of_image {valid : α → Prop} {image : α → β}
    (hencode : ∀ x b, encode x = .ok b ↔ valid x ∧ image x = b)
    (hread : ∀ x, D x → valid x → decode (image x) = .ok x)
    (hwritten : ∀ b x, decode b = .ok x → D x ∧ valid x ∧ image x = b) :
    InverseOn D encode decode where
  decode_encode x b hx h := by
    obtain ⟨hvalid, rfl⟩ := (hencode x b).1 h
    exact hread x hx hvalid
  encode_decode b x h := (hencode x b).2 (hwritten b x h).2
  decoded b x h := (hwritten b x h).1

/-- An encoder that refuses nothing writes the images, and the decoder reads them and nothing
else. -/
theorem InverseOn.of_total {image : α → β} (hread : ∀ x, decode (image x) = .ok x)
    (hwritten : ∀ b x, decode b = .ok x → image x = b) :
    InverseOn (fun _ => True) (fun x => (.ok (image x) : Except ε β)) decode where
  decode_encode x b _ h := by
    obtain rfl := Except.ok.inj h
    exact hread x
  encode_decode b x h := congrArg Except.ok (hwritten b x h)
  decoded _ _ _ := trivial

/-- An encoder that checks a value first writes the image of each value that is not bad, and the
decoder reads these images and nothing else. -/
theorem InverseOn.of_guard {bad : α → Prop} [DecidablePred bad] {e : ε} {image : α → β}
    (hread : ∀ x, ¬bad x → decode (image x) = .ok x)
    (hwritten : ∀ b x, decode b = .ok x → ¬bad x ∧ image x = b) :
    InverseOn (fun _ => True) (fun x => if bad x then .error e else .ok (image x)) decode where
  decode_encode x b _ h := by
    split_ifs at h with hbad
    obtain rfl := Except.ok.inj h
    exact hread x hbad
  encode_decode b x h := by
    obtain ⟨hgood, rfl⟩ := hwritten b x h
    exact if_neg hgood
  decoded _ _ _ := trivial
