import ContractProxy.Proofs.Json.Scan

/-!
Printed values are read back. Main statements: the text of a printable value is read as that value,
and the value is JSON in full to every reader that lets enough containers be open at once.
-/

set_option autoImplicit false

namespace ContractProxy.Json

def settled (value : Json) (outer : List Frame) (rest : List Token) : Document :=
  if outer.isEmpty then ⟨value, rest.isEmpty⟩ else build .separator (place value outer) rest

mutual

theorem build_tokens (value : Json) (h : Printable value) {awaited : Awaited}
    (hawaited : awaited = .value ∨ awaited = .firstItem) (outer : List Frame) (rest : List Token) :
    build awaited outer (tokens value ++ rest) = settled value outer rest := by
  match value with
  | .null => rcases hawaited with rfl | rfl <;> rfl
  | .bool _ => rcases hawaited with rfl | rfl <;> rfl
  | .number _ => rcases hawaited with rfl | rfl <;> rfl
  | .string _ => rcases hawaited with rfl | rfl <;> rfl
  | .array items whole =>
    rw [Printable] at h
    obtain ⟨hitems, rfl⟩ := h
    have hopen : ∀ more, build awaited outer (.openBracket :: more) =
        build .firstItem (.array [] :: outer) more := by
      intro more
      rcases hawaited with rfl | rfl <;> rfl
    match items with
    | [] => exact hopen _
    | first :: items =>
      rw [PrintableItems] at hitems
      -- The first item is read as the others are, only no comma stands before it.
      calc build awaited outer (tokens (.array (first :: items) true) ++ rest)
          = build .firstItem (.array [] :: outer)
              (tokens first ++ (itemTokens items ++ .closeBracket :: rest)) := by
            simp [tokens, hopen]
        _ = build .separator (.array [first] :: outer)
              (itemTokens items ++ .closeBracket :: rest) :=
            build_tokens first hitems.1 (.inr rfl) _ _
        _ = settled (.array (first :: items) true) outer rest :=
            build_itemTokens items hitems.2 [first] outer rest
  | .object members whole =>
    rw [Printable] at h
    obtain ⟨hmembers, rfl⟩ := h
    have hopen : ∀ more, build awaited outer (.openBrace :: more) =
        build .firstKey (.object [] :: outer) more := by
      intro more
      rcases hawaited with rfl | rfl <;> rfl
    match members with
    | [] => exact hopen _
    | (key, first) :: members =>
      rw [PrintableMembers] at hmembers
      obtain ⟨⟨name, rfl⟩, hfirst, hmembers⟩ := hmembers
      calc build awaited outer (tokens (.object ((ofText name, first) :: members) true) ++ rest)
          = build .firstKey (.object [] :: outer) (.string (some name) :: .colon ::
              (tokens first ++ (memberTokens members ++ .closeBrace :: rest))) := by
            simp [tokens, ofText, hopen]
        _ = build .value (.member [] (ofText name) :: outer)
              (tokens first ++ (memberTokens members ++ .closeBrace :: rest)) := rfl
        _ = build .separator (.object [(ofText name, first)] :: outer)
              (memberTokens members ++ .closeBrace :: rest) :=
            build_tokens first hfirst (.inl rfl) _ _
        _ = settled (.object ((ofText name, first) :: members) true) outer rest :=
            build_memberTokens members hmembers [(ofText name, first)] outer rest
  | .absent =>
    rw [Printable] at h
    exact h.elim

theorem build_itemTokens (items : List Json) (h : PrintableItems items) (done : List Json)
    (outer : List Frame) (rest : List Token) :
    build .separator (.array done :: outer) (itemTokens items ++ .closeBracket :: rest) =
      settled (.array (done.reverse ++ items) true) outer rest := by
  match items with
  | [] =>
    rw [List.append_nil]
    rfl
  | item :: items =>
    rw [PrintableItems] at h
    calc build .separator (.array done :: outer)
          (itemTokens (item :: items) ++ .closeBracket :: rest)
        = build .value (.array done :: outer)
            (tokens item ++ (itemTokens items ++ .closeBracket :: rest)) := by
          rw [itemTokens, List.cons_append, List.cons_append, List.append_assoc]
          rfl
      _ = build .separator (.array (item :: done) :: outer)
            (itemTokens items ++ .closeBracket :: rest) :=
          build_tokens item h.1 (.inl rfl) _ _
      _ = settled (.array (done.reverse ++ item :: items) true) outer rest := by
          rw [build_itemTokens items h.2, List.reverse_cons, List.append_assoc,
            List.singleton_append]

theorem build_memberTokens (members : List (Json × Json)) (h : PrintableMembers members)
    (done : List (Json × Json)) (outer : List Frame) (rest : List Token) :
    build .separator (.object done :: outer) (memberTokens members ++ .closeBrace :: rest) =
      settled (.object (done.reverse ++ members) true) outer rest := by
  match members with
  | [] =>
    rw [List.append_nil]
    rfl
  | (key, value) :: members =>
    rw [PrintableMembers] at h
    obtain ⟨⟨name, rfl⟩, hvalue, hmembers⟩ := h
    calc build .separator (.object done :: outer)
          (memberTokens ((ofText name, value) :: members) ++ .closeBrace :: rest)
        = build .key (.object done :: outer) (.string (some name) :: .colon ::
            (tokens value ++ (memberTokens members ++ .closeBrace :: rest))) := by
          simp [memberTokens, tokens, ofText, build]
      _ = build .value (.member done (ofText name) :: outer)
            (tokens value ++ (memberTokens members ++ .closeBrace :: rest)) := rfl
      _ = build .separator (.object ((ofText name, value) :: done) :: outer)
            (memberTokens members ++ .closeBrace :: rest) :=
          build_tokens value hvalue (.inl rfl) _ _
      _ = settled (.object (done.reverse ++ (ofText name, value) :: members) true) outer rest := by
          rw [build_memberTokens members hmembers, List.reverse_cons, List.append_assoc,
            List.singleton_append]

end

theorem read_render {value : Json} (h : Printable value) :
    read (Text.utf8 (render value)) = ⟨value, true⟩ := by
  have hbuild := build_tokens value h (.inl rfl) [] []
  rw [List.append_nil] at hbuild
  rw [read, scan_render h, hbuild]
  rfl

mutual

/-- How many containers the text of a value opens at once. -/
def nesting : Json → Nat
  | .array items _ => itemNesting items + 1
  | .object members _ => memberNesting members + 1
  | _ => 0

def itemNesting : List Json → Nat
  | [] => 0
  | item :: rest => max (nesting item) (itemNesting rest)

def memberNesting : List (Json × Json) → Nat
  | [] => 0
  | (_, value) :: rest => max (nesting value) (memberNesting rest)

end

mutual

theorem readable_of_nesting (value : Json) (h : Printable value) {depth : Nat}
    (hdepth : nesting value ≤ depth) : value.readable depth = true := by
  match value with
  | .null => rfl
  | .bool _ => rfl
  | .number spelling =>
    rw [Printable] at h
    obtain ⟨n, hn, rfl⟩ := h
    rw [readable, ofSpelling?_decimal hn, Option.isSome_some]
  | .string content => exact h
  | .array items whole =>
    rw [Printable] at h
    rw [nesting] at hdepth
    have hitems := readableItems_of_nesting items h.1 (Nat.le_sub_one_of_lt hdepth)
    simp [readable, hitems, h.2, Nat.zero_lt_of_lt hdepth]
  | .object members whole =>
    rw [Printable] at h
    rw [nesting] at hdepth
    have hmembers := readableMembers_of_nesting members h.1 (Nat.le_sub_one_of_lt hdepth)
    simp [readable, hmembers, h.2, Nat.zero_lt_of_lt hdepth]
  | .absent =>
    rw [Printable] at h
    exact h.elim

theorem readableItems_of_nesting (items : List Json) (h : PrintableItems items) {depth : Nat}
    (hdepth : itemNesting items ≤ depth) : readableItems depth items = true := by
  match items with
  | [] => rfl
  | item :: items =>
    rw [PrintableItems] at h
    rw [itemNesting, Nat.max_le] at hdepth
    rw [readableItems, readable_of_nesting item h.1 hdepth.1,
      readableItems_of_nesting items h.2 hdepth.2, Bool.true_and]

theorem readableMembers_of_nesting (members : List (Json × Json)) (h : PrintableMembers members)
    {depth : Nat} (hdepth : memberNesting members ≤ depth) :
    readableMembers depth members = true := by
  match members with
  | [] => rfl
  | (key, value) :: members =>
    rw [PrintableMembers] at h
    obtain ⟨⟨name, rfl⟩, hvalue, hmembers⟩ := h
    rw [memberNesting, Nat.max_le] at hdepth
    rw [readableMembers, readable_of_nesting value hvalue hdepth.1,
      readableMembers_of_nesting members hmembers hdepth.2]
    rfl

end

theorem printable_ofText (t : Text) : Printable (ofText t) := by
  rw [ofText, Printable, Option.isSome_some]

theorem printable_ofNat {n : Nat} (h : n < Number.wordLimit) : Printable (ofNat n) := by
  rw [ofNat, Printable]
  exact ⟨n, h, rfl⟩

theorem printable_ofList {items : List Json} (h : ∀ item ∈ items, Printable item) :
    Printable (ofList items) := by
  rw [ofList, Printable]
  refine ⟨?_, rfl⟩
  induction items with
  | nil => trivial
  | cons item items ih =>
    rw [List.forall_mem_cons] at h
    exact ⟨h.1, ih h.2⟩

theorem printable_ofMembers {members : List (Text × Json)}
    (h : ∀ member ∈ members, Printable member.2) : Printable (ofMembers members) := by
  rw [ofMembers, Printable]
  refine ⟨?_, rfl⟩
  induction members with
  | nil => trivial
  | cons member members ih =>
    rw [List.forall_mem_cons] at h
    exact ⟨⟨member.1, rfl⟩, h.1, ih h.2⟩

theorem nesting_lt_ofList {items : List Json} {item : Json} (h : item ∈ items) :
    nesting item < nesting (ofList items) := by
  rw [ofList, nesting]
  refine Nat.lt_succ_of_le ?_
  induction items with
  | nil => cases h
  | cons first items ih =>
    rw [itemNesting]
    rcases List.mem_cons.mp h with rfl | h
    · exact Nat.le_max_left _ _
    · exact Nat.le_trans (ih h) (Nat.le_max_right _ _)

theorem nesting_lt_ofMembers (name : Text) {value : Json} {members : List (Text × Json)}
    (h : (name, value) ∈ members) : nesting value < nesting (ofMembers members) := by
  rw [ofMembers, nesting]
  refine Nat.lt_succ_of_le ?_
  induction members with
  | nil => cases h
  | cons first members ih =>
    rw [List.map_cons, memberNesting]
    rcases List.mem_cons.mp h with rfl | h
    · exact Nat.le_max_left _ _
    · exact Nat.le_trans (ih h) (Nat.le_max_right _ _)

end ContractProxy.Json
