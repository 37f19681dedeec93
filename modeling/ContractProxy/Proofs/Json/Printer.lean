import ContractProxy.Proofs.Json.Scan

/-!
Printed values have no control characters. Strings are the one place where a control character
could come in, and there it is escaped, so a printed value is always one line.
-/

set_option autoImplicit false

namespace ContractProxy

namespace Text

def ControlFree (t : Text) : Prop :=
  ∀ c ∈ t, 32 ≤ c.toNat

@[simp] theorem controlFree_nil : ControlFree [] :=
  List.forall_mem_nil _

@[simp] theorem controlFree_cons {c : Char} {t : Text} :
    ControlFree (c :: t) ↔ 32 ≤ c.toNat ∧ ControlFree t :=
  List.forall_mem_cons

@[simp] theorem controlFree_append {s t : Text} :
    ControlFree (s ++ t) ↔ ControlFree s ∧ ControlFree t :=
  List.forall_mem_append

theorem controlFree_decimal (n : Nat) : ControlFree (decimal n) := by
  intro c hc
  have hdigit := isDigit_of_mem_decimal hc
  simp only [Char.isDigit, Bool.and_eq_true, decide_eq_true_eq] at hdigit
  have hlow : 48 ≤ c.toNat := UInt32.le_iff_toNat_le.mp hdigit.1
  omega

theorem ControlFree.le_of_mem_utf8 {t : Text} (h : ControlFree t) {b : UInt8} (hb : b ∈ utf8 t) :
    32 ≤ b := by
  obtain ⟨c, hc, hbyte⟩ := List.mem_flatMap.mp hb
  exact le_of_mem_utf8EncodeChar_of_le (h c hc) hbyte

end Text

namespace Json

open Text (ControlFree)

theorem le_digitChar : ∀ value < 16, 32 ≤ (Nat.digitChar value).toNat := by
  decide

theorem controlFree_controlDigits {c : Char} (h : c.toNat < 32) :
    ControlFree (controlDigits c) := by
  have hhigh := le_digitChar (c.toNat / 16) (by omega)
  have hlow := le_digitChar (c.toNat % 16) (Nat.mod_lt _ (by decide))
  simp [controlDigits, hhigh, hlow]

theorem controlFree_escapedChar (c : Char) : ControlFree (escapedChar c) := by
  unfold escapedChar
  split_ifs with hmark _ _ _ _ _ hcontrol
  · simp only [Bool.or_eq_true, decide_eq_true_eq] at hmark
    rcases hmark with rfl | rfl <;> simp
  · simp
  · simp
  · simp
  · simp
  · simp
  · simpa using controlFree_controlDigits hcontrol
  · simpa using hcontrol

theorem controlFree_stringText (t : Text) : ControlFree (stringText t) := by
  have hcontent : ControlFree (t.flatMap escapedChar) := by
    intro c hc
    obtain ⟨d, -, hd⟩ := List.mem_flatMap.mp hc
    exact controlFree_escapedChar d c hd
  simp [stringText, hcontent]

mutual

theorem controlFree_render (value : Json) (h : Printable value) : ControlFree (render value) := by
  match value with
  | .null => simp [render]
  | .bool true => simp [render]
  | .bool false => simp [render]
  | .number spelling =>
    rw [Printable] at h
    obtain ⟨n, -, rfl⟩ := h
    exact Text.controlFree_decimal n
  | .string content => exact controlFree_stringText _
  | .array [] _ => simp [render]
  | .array (first :: items) whole =>
    rw [Printable, PrintableItems] at h
    have hfirst := controlFree_render first h.1.1
    have hitems := controlFree_renderItems items h.1.2
    simp [render, hfirst, hitems]
  | .object [] _ => simp [render]
  | .object ((key, first) :: members) whole =>
    rw [Printable, PrintableMembers] at h
    obtain ⟨⟨⟨name, rfl⟩, hfirst, hmembers⟩, -⟩ := h
    have hname := controlFree_stringText name
    have hfirst := controlFree_render first hfirst
    have hmembers := controlFree_renderMembers members hmembers
    simp [render, ofText, hname, hfirst, hmembers]
  | .absent => simp [render]

theorem controlFree_renderItems (items : List Json) (h : PrintableItems items) :
    ControlFree (renderItems items) := by
  match items with
  | [] => simp [renderItems]
  | item :: items =>
    rw [PrintableItems] at h
    have hitem := controlFree_render item h.1
    have hitems := controlFree_renderItems items h.2
    simp [renderItems, hitem, hitems]

theorem controlFree_renderMembers (members : List (Json × Json)) (h : PrintableMembers members) :
    ControlFree (renderMembers members) := by
  match members with
  | [] => simp [renderMembers]
  | (key, value) :: members =>
    rw [PrintableMembers] at h
    obtain ⟨⟨name, rfl⟩, hvalue, hmembers⟩ := h
    have hname := controlFree_stringText name
    have hvalue := controlFree_render value hvalue
    have hmembers := controlFree_renderMembers members hmembers
    simp [renderMembers, render, ofText, hname, hvalue, hmembers]

end

end Json

end ContractProxy
