import ContractProxy.Proofs.Json.Number

/-!
Scanning what is printed. Main statement: the text of a value is scanned as the tokens of the value,
whatever follows it. Only a number needs a mark behind it that ends it.
-/

set_option autoImplicit false

namespace ContractProxy

namespace Text

def octet (c : Char) : UInt8 :=
  .ofNat c.toNat

theorem utf8_cons (c : Char) (t : Text) : utf8 (c :: t) = String.utf8EncodeChar c ++ utf8 t :=
  List.flatMap_cons

section

variable {c : Char}

theorem utf8EncodeChar_of_ascii (h : c.toNat < 128) : String.utf8EncodeChar c = [octet c] := by
  have hval : c.val.toNat ≤ 127 := Nat.le_of_lt_succ h
  rw [String.utf8EncodeChar, if_pos hval]
  rfl

theorem utf8_cons_of_ascii (h : c.toNat < 128) (t : Text) : utf8 (c :: t) = octet c :: utf8 t := by
  rw [utf8_cons, utf8EncodeChar_of_ascii h, List.singleton_append]

theorem toNat_octet (h : c.toNat < 128) : (octet c).toNat = c.toNat := by
  rw [octet, UInt8.toNat_ofNat']
  omega

theorem ofNat_octet (h : c.toNat < 128) : Char.ofNat (octet c).toNat = c := by
  rw [toNat_octet h, Char.ofNat_toNat]

theorem le_of_mem_utf8EncodeChar (h : 128 ≤ c.toNat) {b : UInt8}
    (hb : b ∈ String.utf8EncodeChar c) : 128 ≤ b.toNat := by
  have hval : ¬ c.val.toNat ≤ 127 := Nat.not_le.mpr h
  simp only [String.utf8EncodeChar, hval, if_false] at hb
  split_ifs at hb <;> simp only [List.mem_cons, List.not_mem_nil, or_false] at hb
  · rcases hb with rfl | rfl <;> simp <;> omega
  · rcases hb with rfl | rfl | rfl <;> simp <;> omega
  · rcases hb with rfl | rfl | rfl | rfl <;> simp <;> omega

theorem le_of_mem_utf8EncodeChar_of_le (h : 32 ≤ c.toNat) {b : UInt8}
    (hb : b ∈ String.utf8EncodeChar c) : 32 ≤ b := by
  rw [UInt8.le_iff_toNat_le]
  by_cases hascii : c.toNat < 128
  · rw [utf8EncodeChar_of_ascii hascii, List.mem_singleton] at hb
    rw [hb, toNat_octet hascii]
    exact h
  · have hhigh := le_of_mem_utf8EncodeChar (Nat.not_lt.mp hascii) hb
    exact Nat.le_trans (by decide) hhigh

end

end Text

namespace Json

def StringScan.holding (bytes : Bytes) : StringScan :=
  ⟨bytes.reverse, none, true⟩

namespace StringScan

variable (bytes : Bytes)

theorem holding_pushByte (b : UInt8) : (holding bytes).pushByte b = holding (bytes ++ [b]) := by
  simp [holding, pushByte, settle]

theorem holding_pushChar (c : Char) :
    (holding bytes).pushChar c = holding (bytes ++ String.utf8EncodeChar c) := by
  simp [holding, pushChar, settle]

theorem holding_pushUnit {unit : Nat} (h : unit < 0xD800) :
    (holding bytes).pushUnit unit = (holding bytes).pushChar (Char.ofNat unit) := by
  have htrailing : isTrailing unit = false := by
    simp [isTrailing]
    omega
  have hleading : isLeading unit = false := by
    simp [isLeading]
    omega
  simp [pushUnit, htrailing, hleading]

theorem content_holding (t : Text) : (holding (Text.utf8 t)).content = some t := by
  simp [content, holding, settle, Text.ofUtf8?_utf8]

end StringScan

open StringScan (holding)

section

variable (done : List Token) (before : Bytes) (rest : Bytes)

def IsPlain (b : UInt8) : Prop :=
  b ≠ 34 ∧ b ≠ 92 ∧ 32 ≤ b

theorem scanFrom_plain {b : UInt8} (h : IsPlain b) :
    scanFrom (.string (holding before)) done (b :: rest) =
      scanFrom (.string (holding (before ++ [b]))) done rest := by
  obtain ⟨hquote, hback, hcontrol⟩ := h
  have hlow : ¬ b < 32 := UInt8.not_lt.mpr hcontrol
  rw [← StringScan.holding_pushByte]
  simp [scanFrom, ScanState.stepString, hquote, hback, hlow]

theorem scanFrom_plain_bytes {bytes : Bytes} (h : ∀ b ∈ bytes, IsPlain b) :
    scanFrom (.string (holding before)) done (bytes ++ rest) =
      scanFrom (.string (holding (before ++ bytes))) done rest := by
  induction bytes generalizing before with
  | nil => simp
  | cons b bytes ih =>
    rw [List.forall_mem_cons] at h
    rw [List.cons_append, scanFrom_plain _ _ _ h.1, ih _ h.2, List.append_assoc,
      List.singleton_append]

theorem isPlain_of_mem {c : Char} (hquote : c ≠ '\"') (hback : c ≠ '\\') (hcontrol : 32 ≤ c.toNat)
    {b : UInt8} (hb : b ∈ String.utf8EncodeChar c) : IsPlain b := by
  have hlow := Text.le_of_mem_utf8EncodeChar_of_le hcontrol hb
  by_cases hascii : c.toNat < 128
  · rw [Text.utf8EncodeChar_of_ascii hascii, List.mem_singleton] at hb
    subst hb
    have hc := Text.ofNat_octet hascii
    refine ⟨?_, ?_, hlow⟩
    · intro heq
      rw [heq] at hc
      exact hquote hc.symm
    · intro heq
      rw [heq] at hc
      exact hback hc.symm
  · have hhigh := Text.le_of_mem_utf8EncodeChar (Nat.not_lt.mp hascii) hb
    refine ⟨?_, ?_, hlow⟩
    · rintro rfl
      exact absurd hhigh (by decide)
    · rintro rfl
      exact absurd hhigh (by decide)

theorem hexDigit?_digitChar : ∀ value < 16, Text.hexDigit? (Nat.digitChar value) = some value := by
  decide

theorem digitChar_lt : ∀ value < 16, (Nat.digitChar value).toNat < 128 := by
  decide

theorem scanFrom_control {c : Char} (h : c.toNat < 32) :
    scanFrom (.string (holding before)) done (Text.utf8 ("\\u" ++ controlDigits c) ++ rest) =
      scanFrom (.string ((holding before).pushChar c)) done rest := by
  have hhigh : c.toNat / 16 < 16 := by omega
  have hlow : c.toNat % 16 < 16 := Nat.mod_lt _ (by decide)
  have hunit : 16 * (c.toNat / 16) + c.toNat % 16 = c.toNat := by omega
  have hbytes : Text.utf8 ("\\u" ++ controlDigits c) =
      92 :: 117 :: 48 :: 48 :: Text.octet (Nat.digitChar (c.toNat / 16)) ::
        [Text.octet (Nat.digitChar (c.toNat % 16))] := by
    rw [controlDigits, ← List.append_assoc, Text.utf8_append,
      Text.utf8_cons_of_ascii (digitChar_lt _ hhigh), Text.utf8_cons_of_ascii (digitChar_lt _ hlow)]
    rfl
  rw [hbytes]
  calc scanFrom (.string (holding before)) done
        (92 :: 117 :: 48 :: 48 :: Text.octet (Nat.digitChar (c.toNat / 16)) ::
          Text.octet (Nat.digitChar (c.toNat % 16)) :: rest)
      = scanFrom (.codeUnit (holding before) 2 0) done
          (Text.octet (Nat.digitChar (c.toNat / 16)) ::
            Text.octet (Nat.digitChar (c.toNat % 16)) :: rest) := rfl
    _ = scanFrom (.string ((holding before).pushUnit c.toNat)) done rest := by
        simp [scanFrom, ScanState.stepCodeUnit, Text.ofNat_octet (digitChar_lt _ hhigh),
          Text.ofNat_octet (digitChar_lt _ hlow), hexDigit?_digitChar _ hhigh,
          hexDigit?_digitChar _ hlow, hunit]
    _ = scanFrom (.string ((holding before).pushChar c)) done rest := by
        rw [StringScan.holding_pushUnit before (by omega), Char.ofNat_toNat]

theorem scanFrom_escapedChar (c : Char) :
    scanFrom (.string (holding before)) done (Text.utf8 (escapedChar c) ++ rest) =
      scanFrom (.string (holding (before ++ String.utf8EncodeChar c))) done rest := by
  unfold escapedChar
  split_ifs with hmark hbackspace hfeed hline hreturn htab hcontrol
  · rw [← StringScan.holding_pushChar]
    simp only [Bool.or_eq_true, decide_eq_true_eq] at hmark
    rcases hmark with rfl | rfl <;> rfl
  · rw [← StringScan.holding_pushChar, hbackspace]
    rfl
  · rw [← StringScan.holding_pushChar, hfeed]
    rfl
  · rw [← StringScan.holding_pushChar, hline]
    rfl
  · rw [← StringScan.holding_pushChar, hreturn]
    rfl
  · rw [← StringScan.holding_pushChar, htab]
    rfl
  · rw [scanFrom_control _ _ _ hcontrol, StringScan.holding_pushChar]
  · rw [Text.utf8_cons, show Text.utf8 [] = [] from rfl, List.append_nil]
    refine scanFrom_plain_bytes _ _ _ fun b hb => isPlain_of_mem ?_ ?_ (Nat.not_lt.mp hcontrol) hb
    · rintro rfl
      exact hmark rfl
    · rintro rfl
      exact hmark rfl

theorem scanFrom_escaped (t : Text) :
    scanFrom (.string (holding before)) done (Text.utf8 (t.flatMap escapedChar) ++ rest) =
      scanFrom (.string (holding (before ++ Text.utf8 t))) done rest := by
  induction t generalizing before with
  | nil => simp [Text.utf8]
  | cons c t ih =>
    rw [List.flatMap_cons, Text.utf8_append, List.append_assoc, scanFrom_escapedChar, ih,
      List.append_assoc, ← Text.utf8_cons]

end

/-- A text is scanned as the given tokens, whatever follows it. -/
def Scans (t : Text) (produced : List Token) : Prop :=
  ∀ done rest, scanFrom .between done (Text.utf8 t ++ rest) =
    scanFrom .between (produced.reverse ++ done) rest

/-- Nothing follows, or a mark that ends a value in a container: a comma, a bracket or a brace. -/
def Delimited (rest : Bytes) : Prop :=
  ∀ b ∈ rest.head?, b = 44 ∨ b = 93 ∨ b = 125

def ScansDelimited (t : Text) (produced : List Token) : Prop :=
  ∀ done rest, Delimited rest → scanFrom .between done (Text.utf8 t ++ rest) =
    scanFrom .between (produced.reverse ++ done) rest

theorem Scans.delimited {t : Text} {produced : List Token} (h : Scans t produced) :
    ScansDelimited t produced :=
  fun done rest _ => h done rest

section

variable {s t : Text} {first second : List Token}

theorem Scans.append (h : Scans s first) (h' : Scans t second) :
    Scans (s ++ t) (first ++ second) := by
  intro done rest
  rw [Text.utf8_append, List.append_assoc, h, h', List.reverse_append, List.append_assoc]

theorem ScansDelimited.append (h : ScansDelimited s first) (h' : Scans t second)
    (hends : ∀ rest, Delimited (Text.utf8 t ++ rest)) : Scans (s ++ t) (first ++ second) := by
  intro done rest
  rw [Text.utf8_append, List.append_assoc, h done _ (hends rest), h', List.reverse_append,
    List.append_assoc]

end

theorem scans_stringText (t : Text) : Scans (stringText t) [.string (some t)] := by
  intro done rest
  have hbytes : Text.utf8 (stringText t) ++ rest =
      34 :: (Text.utf8 (t.flatMap escapedChar) ++ 34 :: rest) := by
    rw [stringText, Text.utf8_append, Text.utf8_cons, List.append_assoc]
    rfl
  rw [hbytes]
  calc scanFrom .between done (34 :: (Text.utf8 (t.flatMap escapedChar) ++ 34 :: rest))
      = scanFrom (.string (holding [])) done
          (Text.utf8 (t.flatMap escapedChar) ++ 34 :: rest) := rfl
    _ = scanFrom (.string (holding (Text.utf8 t))) done (34 :: rest) := by
        rw [scanFrom_escaped, List.nil_append]
    _ = scanFrom .between (.string (holding (Text.utf8 t)).content :: done) rest := rfl
    _ = scanFrom .between (.string (some t) :: done) rest := by
        rw [StringScan.content_holding]

theorem scans_name (name : Text) : Scans (stringText name ++ ":") [.string (some name), .colon] :=
  (scans_stringText name).append fun _ _ => rfl

section

variable (done : List Token) {rest : Bytes}

theorem toNat_lt_of_isDigit {c : Char} (h : c.isDigit = true) : c.toNat < 128 :=
  Nat.lt_of_le_of_lt (Char.isDigit_iff_toNat.mp h).2 (by decide)

theorem scanFrom_digits {digits : Text} (h : ∀ c ∈ digits, c.isDigit = true) (seen : Text) :
    scanFrom (.number .integer seen) done (Text.utf8 digits ++ rest) =
      scanFrom (.number .integer (digits.reverse ++ seen)) done rest := by
  induction digits generalizing seen with
  | nil => rfl
  | cons c digits ih =>
    rw [List.forall_mem_cons] at h
    have hascii := toNat_lt_of_isDigit h.1
    rw [Text.utf8_cons_of_ascii hascii, List.cons_append, List.reverse_cons, List.append_assoc,
      List.singleton_append, ← ih h.2]
    simp [scanFrom, NumberStage.step, Text.ofNat_octet hascii, h.1]

theorem scanFrom_number_end {stage : NumberStage} (hstage : stage = .zero ∨ stage = .integer)
    (h : Delimited rest) (seen : Text) :
    scanFrom (.number stage seen) done rest =
      scanFrom .between (.number seen.reverse :: done) rest := by
  cases rest with
  | nil => rcases hstage with rfl | rfl <;> rfl
  | cons b rest => rcases hstage with rfl | rfl <;> rcases h b rfl with rfl | rfl | rfl <;> rfl

theorem stepBetween_digit {c : Char} (h : c.isDigit = true) (hne : c ≠ '0') :
    ScanState.stepBetween c = (none, some (.number .integer [c])) := by
  unfold ScanState.stepBetween
  split <;> simp_all

end

theorem scansDelimited_decimal (n : Nat) :
    ScansDelimited (Text.decimal n) [.number (Text.decimal n)] := by
  intro done rest h
  cases n with
  | zero => exact scanFrom_number_end done (.inl rfl) h ['0']
  | succ n =>
    -- A zero in front would end the number, so the first digit must be another one.
    obtain ⟨first, others, heq, hne⟩ := Text.decimal_eq_cons (Nat.succ_pos n)
    have hdigits : ∀ c ∈ first :: others, c.isDigit = true :=
      fun c hc => Text.isDigit_of_mem_decimal (heq ▸ hc)
    rw [List.forall_mem_cons] at hdigits
    have hascii := toNat_lt_of_isDigit hdigits.1
    rw [heq, Text.utf8_cons_of_ascii hascii, List.cons_append]
    calc scanFrom .between done (Text.octet first :: (Text.utf8 others ++ rest))
        = scanFrom (.number .integer [first]) done (Text.utf8 others ++ rest) := by
          simp [scanFrom, Text.ofNat_octet hascii, stepBetween_digit hdigits.1 hne]
      _ = scanFrom (.number .integer (others.reverse ++ [first])) done rest :=
          scanFrom_digits done hdigits.2 [first]
      _ = scanFrom .between (.number (first :: others) :: done) rest := by
          rw [scanFrom_number_end done (.inr rfl) h]
          simp

mutual

/-- A value that has a text of its own: strings are text, numbers are words in decimal digits, and
nothing breaks off. -/
def Printable : Json → Prop
  | .null => True
  | .bool _ => True
  | .number spelling => ∃ n < Number.wordLimit, spelling = Text.decimal n
  | .string content => content.isSome = true
  | .array items whole => PrintableItems items ∧ whole = true
  | .object members whole => PrintableMembers members ∧ whole = true
  | .absent => False

def PrintableItems : List Json → Prop
  | [] => True
  | item :: rest => Printable item ∧ PrintableItems rest

def PrintableMembers : List (Json × Json) → Prop
  | [] => True
  | (key, value) :: rest =>
    (∃ name, key = ofText name) ∧ Printable value ∧ PrintableMembers rest

end

mutual

def tokens : Json → List Token
  | .null => [.null]
  | .bool value => [.bool value]
  | .number spelling => [.number spelling]
  | .string content => [.string content]
  | .array [] _ => [.openBracket, .closeBracket]
  | .array (first :: rest) _ => .openBracket :: tokens first ++ itemTokens rest ++ [.closeBracket]
  | .object [] _ => [.openBrace, .closeBrace]
  | .object ((key, value) :: rest) _ =>
    .openBrace :: tokens key ++ .colon :: tokens value ++ memberTokens rest ++ [.closeBrace]
  | .absent => []

def itemTokens : List Json → List Token
  | [] => []
  | item :: rest => .comma :: tokens item ++ itemTokens rest

def memberTokens : List (Json × Json) → List Token
  | [] => []
  | (key, value) :: rest =>
    .comma :: tokens key ++ .colon :: tokens value ++ memberTokens rest

end

theorem delimited_renderItems (items : List Json) (rest : Bytes) :
    Delimited (Text.utf8 (renderItems items ++ "]") ++ rest) := by
  cases items <;> simp [Delimited, renderItems, Text.utf8, String.utf8EncodeChar]

theorem delimited_renderMembers (members : List (Json × Json)) (rest : Bytes) :
    Delimited (Text.utf8 (renderMembers members ++ "\x7d") ++ rest) := by
  cases members <;> simp [Delimited, renderMembers, Text.utf8, String.utf8EncodeChar]

mutual

theorem scansDelimited_render (value : Json) (h : Printable value) :
    ScansDelimited (render value) (tokens value) := by
  match value with
  | .null => exact Scans.delimited fun _ _ => rfl
  | .bool true => exact Scans.delimited fun _ _ => rfl
  | .bool false => exact Scans.delimited fun _ _ => rfl
  | .number spelling =>
    rw [Printable] at h
    obtain ⟨n, _, rfl⟩ := h
    exact scansDelimited_decimal n
  | .string content =>
    rw [Printable] at h
    obtain ⟨t, rfl⟩ := Option.isSome_iff_exists.mp h
    exact (scans_stringText t).delimited
  | .array [] whole => exact Scans.delimited fun _ _ => rfl
  | .array (first :: items) whole =>
    rw [Printable, PrintableItems] at h
    have hopen : Scans "[" [.openBracket] := fun _ _ => rfl
    have hitems := (scansDelimited_render first h.1.1).append (scans_renderItems items h.1.2)
      (delimited_renderItems items)
    simpa [render, tokens] using (hopen.append hitems).delimited
  | .object [] whole => exact Scans.delimited fun _ _ => rfl
  | .object ((key, first) :: members) whole =>
    rw [Printable, PrintableMembers] at h
    obtain ⟨⟨⟨name, rfl⟩, hfirst, hmembers⟩, _⟩ := h
    have hopen : Scans "\x7b" [.openBrace] := fun _ _ => rfl
    have hvalue := (scansDelimited_render first hfirst).append
      (scans_renderMembers members hmembers) (delimited_renderMembers members)
    simpa [render, tokens, ofText] using
      (hopen.append ((scans_name name).append hvalue)).delimited
  | .absent =>
    rw [Printable] at h
    exact h.elim

theorem scans_renderItems (items : List Json) (h : PrintableItems items) :
    Scans (renderItems items ++ "]") (itemTokens items ++ [.closeBracket]) := by
  match items with
  | [] => exact fun _ _ => rfl
  | item :: items =>
    rw [PrintableItems] at h
    have hcomma : Scans "," [.comma] := fun _ _ => rfl
    have hitems := (scansDelimited_render item h.1).append (scans_renderItems items h.2)
      (delimited_renderItems items)
    simpa [renderItems, itemTokens] using hcomma.append hitems

theorem scans_renderMembers (members : List (Json × Json)) (h : PrintableMembers members) :
    Scans (renderMembers members ++ "\x7d") (memberTokens members ++ [.closeBrace]) := by
  match members with
  | [] => exact fun _ _ => rfl
  | (key, value) :: members =>
    rw [PrintableMembers] at h
    obtain ⟨⟨name, rfl⟩, hvalue, hmembers⟩ := h
    have hcomma : Scans "," [.comma] := fun _ _ => rfl
    have hvalue := (scansDelimited_render value hvalue).append
      (scans_renderMembers members hmembers) (delimited_renderMembers members)
    simpa [renderMembers, render, memberTokens, tokens, ofText] using
      hcomma.append ((scans_name name).append hvalue)

end

theorem scan_render {value : Json} (h : Printable value) :
    scan (Text.utf8 (render value)) = tokens value := by
  have hscan := scansDelimited_render value h [] [] (by simp [Delimited])
  rw [List.append_nil, List.append_nil] at hscan
  rw [scan, hscan, scanFrom, List.reverse_reverse]

end Json

end ContractProxy
