import ContractProxy.Proofs.FirstFault
import ContractProxy.Proofs.TypeRef.Acceptance
import ContractProxy.Proofs.TypeRef.Folding
import ContractProxy.TypeRef.Json

/-!
References that are read from JSON, at every depth. A plain spelling has its outermost array suffix
folded into the rank; an object is taken as it stands. Main statement: which of the values within a
reference leave a suffix behind at the end of a name without a rank.
-/

set_option autoImplicit false

namespace ContractProxy.TypeRef

def Gives (members : List (Json × Json)) (key : Text) (value : Json) : Prop :=
  (Json.string (some key), value) ∈ members

/-- How a slot is filled by the members of a name: by none of them, or by the only one. -/
inductive Filled {α : Type} (read : Json → Option α) (key : Text) (members : List (Json × Json)) :
    Option α → Option α → Prop
  | kept {slot : Option α} (hnone : ∀ value, ¬ Gives members key value) :
    Filled read key members slot slot
  | given {value : Json} {found : α} (hgives : Gives members key value)
    (hread : read value = some found) (honly : ∀ other, Gives members key other → other = value) :
    Filled read key members none (some found)

namespace Filled

variable {α : Type} {read : Json → Option α} {key : Text} {rest : List (Json × Json)}

theorem cons_self {value : Json} {found : α} {after : Option α} (hread : read value = some found)
    (h : Filled read key rest (some found) after) :
    Filled read key ((.string (some key), value) :: rest) none after := by
  cases h with
  | kept hnone =>
    refine .given List.mem_cons_self hread ?_
    intro other hother
    rcases List.mem_cons.mp hother with heq | hm
    · exact congrArg Prod.snd heq
    · exact absurd hm (hnone other)

theorem cons_of_ne {other : Text} {value : Json} {before after : Option α} (hne : other ≠ key)
    (h : Filled read key rest before after) :
    Filled read key ((.string (some other), value) :: rest) before after := by
  have hgives : ∀ found, Gives ((.string (some other), value) :: rest) key found ↔
      Gives rest key found := by
    intro found
    simp [Gives, hne.symm]
  cases h with
  | kept hnone => exact .kept fun found hfound => hnone found ((hgives found).mp hfound)
  | given hfound hread honly =>
    exact .given ((hgives _).mpr hfound) hread fun found hm => honly found ((hgives found).mp hm)

end Filled

def asName? : Json → Option Text
  | .string (some name) => some name
  | _ => none

def asArguments? : Json → Option (List TypeRef)
  | .array items _ => ofItems? items
  | _ => none

def asRank? (value : Json) : Option UInt32 :=
  (Json.asWord value).toOption

theorem asRank?_eq_some_iff {value : Json} {rank : UInt32} :
    asRank? value = some rank ↔ Json.asWord value = .ok rank := by
  unfold asRank?
  cases Json.asWord value <;> simp [Except.toOption]

inductive Adds (given : Members) : Json × Json → Members → Prop
  | name {value : Json} {name : Text} (hfree : given.name = none)
    (hread : asName? value = some name) :
    Adds given (.string (some "name"), value) { given with name := some name }
  | arguments {value : Json} {types : List TypeRef} (hfree : given.arguments = none)
    (hread : asArguments? value = some types) :
    Adds given (.string (some "arguments"), value) { given with arguments := some types }
  | rank {value : Json} {rank : UInt32} (hfree : given.rank = none)
    (hread : asRank? value = some rank) :
    Adds given (.string (some "array_rank"), value) { given with rank := some rank }
  | other {key : Text} {value : Json} (hname : key ≠ "name") (harguments : key ≠ "arguments")
    (hrank : key ≠ "array_rank") : Adds given (.string (some key), value) given

theorem ofMembers?_cons {given final : Members} {entry : Json × Json} {rest : List (Json × Json)}
    (h : ofMembers? given (entry :: rest) = some final) :
    ∃ next, Adds given entry next ∧ ofMembers? next rest = some final := by
  rw [ofMembers?.eq_def] at h
  split at h
  · rename_i heq
    cases heq
  · rename_i key value others heq
    cases heq
    split_ifs at h with hname hfree harguments hfree hrank hfree
    · split at h <;> cases h
    · split at h
      · rename_i name
        obtain rfl : key = "name" := by simpa using hname
        exact ⟨_, .name (by simpa using hfree) rfl, h⟩
      · cases h
    · split at h <;> cases h
    · split at h
      · rename_i items closed
        obtain rfl : key = "arguments" := by simpa using harguments
        obtain ⟨types, htypes, h⟩ := Option.bind_eq_some_iff.mp h
        exact ⟨_, .arguments (by simpa using hfree) htypes, h⟩
      · cases h
    · split at h <;> cases h
    · split at h
      · rename_i rank hword
        obtain rfl : key = "array_rank" := by simpa using hrank
        exact ⟨_, .rank (by simpa using hfree) (asRank?_eq_some_iff.mpr hword), h⟩
      · cases h
    · exact ⟨given, .other (by simpa using hname) (by simpa using harguments)
        (by simpa using hrank), h⟩
  · cases h

theorem filled_of_ofMembers? {given final : Members} {members : List (Json × Json)}
    (h : ofMembers? given members = some final) :
    Filled asName? "name" members given.name final.name ∧
      Filled asArguments? "arguments" members given.arguments final.arguments ∧
      Filled asRank? "array_rank" members given.rank final.rank := by
  induction members generalizing given with
  | nil =>
    rw [ofMembers?] at h
    cases h
    have hnone : ∀ key value, ¬ Gives [] key value := fun key value => List.not_mem_nil
    exact ⟨.kept (hnone _), .kept (hnone _), .kept (hnone _)⟩
  | cons entry rest ih =>
    obtain ⟨next, hadds, hrest⟩ := ofMembers?_cons h
    obtain ⟨hname, harguments, hrank⟩ := ih hrest
    cases hadds with
    | name hfree hread =>
      rw [hfree]
      exact ⟨.cons_self hread hname, .cons_of_ne (by decide) harguments,
        .cons_of_ne (by decide) hrank⟩
    | arguments hfree hread =>
      rw [hfree]
      exact ⟨.cons_of_ne (by decide) hname, .cons_self hread harguments,
        .cons_of_ne (by decide) hrank⟩
    | rank hfree hread =>
      rw [hfree]
      exact ⟨.cons_of_ne (by decide) hname, .cons_of_ne (by decide) harguments,
        .cons_self hread hrank⟩
    | other hn ha hr =>
      exact ⟨.cons_of_ne hn hname, .cons_of_ne ha harguments, .cons_of_ne hr hrank⟩

theorem filled_of_ofJson? {members : List (Json × Json)} {whole : Bool} {type : TypeRef}
    (h : ofJson? (.object members whole) = some type) :
    ∃ arguments rank, Filled asName? "name" members none (some type.name) ∧
      Filled asArguments? "arguments" members none arguments ∧
      type.arguments = arguments.getD [] ∧
      Filled asRank? "array_rank" members none rank ∧ type.rank = rank.getD 0 := by
  simp only [ofJson?, Option.bind_eq_bind, Option.bind_eq_some_iff, Option.some.injEq] at h
  obtain ⟨given, hgiven, name, hname, rfl⟩ := h
  obtain ⟨hfilled, harguments, hrank⟩ := filled_of_ofMembers? hgiven
  rw [hname] at hfilled
  exact ⟨_, _, hfilled, harguments, rfl, hrank, rfl⟩

theorem forall₂_of_ofItems? {items : List Json} {types : List TypeRef}
    (h : ofItems? items = some types) :
    List.Forall₂ (fun item type => ofJson? item = some type) items types := by
  induction items generalizing types with
  | nil =>
    rw [ofItems?] at h
    cases h
    exact .nil
  | cons item rest ih =>
    simp only [ofItems?, Option.bind_eq_bind, Option.bind_eq_some_iff, Option.some.injEq] at h
    obtain ⟨type, htype, others, hothers, rfl⟩ := h
    exact .cons htype (ih hothers)

theorem name_of_filled {members : List (Json × Json)} {name : Text}
    (h : Filled asName? "name" members none (some name)) :
    Gives members "name" (.string (some name)) ∧
      ∀ other, Gives members "name" other → other = .string (some name) := by
  cases h with
  | @given value _ hgives hread honly =>
    obtain rfl : value = .string (some name) := by
      unfold asName? at hread
      split at hread
      · rw [Option.some.inj hread]
      · cases hread
    exact ⟨hgives, honly⟩

theorem arguments_of_filled {members : List (Json × Json)} {slot : Option (List TypeRef)}
    (h : Filled asArguments? "arguments" members none slot) :
    (∀ value, ¬ Gives members "arguments" value) ∧ slot.getD [] = [] ∨
      ∃ items closed, Gives members "arguments" (.array items closed) ∧
        (∀ other, Gives members "arguments" other → other = .array items closed) ∧
        List.Forall₂ (fun item type => ofJson? item = some type) items (slot.getD []) := by
  cases h with
  | kept hnone => exact .inl ⟨hnone, rfl⟩
  | @given value types hgives hread honly =>
    cases value with
    | array items closed =>
      exact .inr ⟨items, closed, hgives, honly, forall₂_of_ofItems? hread⟩
    | null | bool | number | string | object | absent => cases hread

/-- The values that the references within a reference are read from. -/
inductive Within : Json → Json → Prop
  | self (value : Json) : Within value value
  | argument {members : List (Json × Json)} {items : List Json} {closed whole : Bool}
    {item form : Json} (hgives : Gives members "arguments" (.array items closed))
    (hitem : item ∈ items) (hform : Within item form) : Within (.object members whole) form

theorem mem_nodes_iff {type node : TypeRef} :
    node ∈ type.nodes ↔ node = type ∨ ∃ argument ∈ type.arguments, node ∈ argument.nodes := by
  obtain ⟨name, arguments, rank⟩ := type
  rw [nodes, List.mem_cons, nodesAll_eq_flatMap, List.mem_flatMap]

theorem arguments_ofSpelling (spelling : Text) : (ofSpelling spelling).arguments = [] := by
  unfold ofSpelling
  split <;> rfl

theorem exists_item_of_mem_arguments {value : Json} {type argument : TypeRef}
    (h : ofJson? value = some type) (hm : argument ∈ type.arguments) :
    ∃ item, ofJson? item = some argument ∧ ∀ form, Within item form → Within value form := by
  cases value with
  | object members whole =>
    obtain ⟨slot, _, _, hfilled, hslot, _⟩ := filled_of_ofJson? h
    rw [hslot] at hm
    rcases arguments_of_filled hfilled with ⟨_, hnil⟩ | ⟨items, closed, hgives, _, hitems⟩
    · simp [hnil] at hm
    · obtain ⟨item, hitem, hread⟩ := exists_mem_of_forall₂ hitems hm
      exact ⟨item, hread, fun form hform => .argument hgives hitem hform⟩
  | string content =>
    cases content with
    | none => cases h
    | some spelling =>
      rw [ofJson?, Option.some.injEq] at h
      rw [← h, arguments_ofSpelling] at hm
      cases hm
  | null | bool | number | array | absent => cases h

theorem exists_form_of_mem_nodes (type : TypeRef) : ∀ {value : Json}, ofJson? value = some type →
    ∀ node ∈ type.nodes, ∃ form, Within value form ∧ ofJson? form = some node := by
  induction type using argumentInduction with
  | node name arguments rank ih =>
    intro value h node hm
    rcases mem_nodes_iff.mp hm with rfl | ⟨argument, hargument, hm⟩
    · exact ⟨value, .self value, h⟩
    · obtain ⟨item, hitem, hwithin⟩ := exists_item_of_mem_arguments h hargument
      obtain ⟨form, hform, hnode⟩ := ih argument hargument hitem node hm
      exact ⟨form, hwithin form hform, hnode⟩

theorem exists_node_of_within {value form : Json} (h : Within value form) : ∀ {type : TypeRef},
    ofJson? value = some type → ∃ node ∈ type.nodes, ofJson? form = some node := by
  induction h with
  | self value =>
    intro type htype
    exact ⟨type, mem_nodes_iff.mpr (.inl rfl), htype⟩
  | argument hgives hitem hform ih =>
    intro type htype
    obtain ⟨slot, _, _, hfilled, hslot, _⟩ := filled_of_ofJson? htype
    rcases arguments_of_filled hfilled with ⟨hnone, _⟩ | ⟨items, closed, _, honly, hitems⟩
    · exact absurd hgives (hnone _)
    · -- The array that is given is the one that was read.
      cases honly _ hgives
      rw [← hslot] at hitems
      obtain ⟨argument, hargument, hread⟩ := exists_mem_of_forall₂ hitems.flip hitem
      obtain ⟨node, hm, hnode⟩ := ih hread
      exact ⟨node, mem_nodes_iff.mpr (.inr ⟨argument, hargument, hm⟩), hnode⟩

/-- A reference without a rank has no array suffix at the end of its name. -/
def Folded (type : TypeRef) : Prop :=
  type.rank = 0 → ∀ front commas, ¬ OuterSuffix type.name front commas

/-- A value that leaves an array suffix in the name of its reference: an object whose name has one
and that gives no rank, or a plain spelling whose outermost suffix was lost. -/
inductive LeavesSuffix : Json → Prop
  | object {members : List (Json × Json)} {whole : Bool} {name front : Text} {commas : Nat}
    (hname : Gives members "name" (.string (some name))) (hsuffix : OuterSuffix name front commas)
    (hrank : ∀ number rank, Gives members "array_rank" number →
      Json.asWord number = .ok rank → rank = 0) : LeavesSuffix (.object members whole)
  | spelling {spelling inner front : Text} {commas : Nat}
    (houter : OuterSuffix (Text.trim spelling) inner (UInt32.size - 1))
    (hinner : OuterSuffix inner front commas) : LeavesSuffix (.string (some spelling))

theorem folded_ofSpelling_iff (spelling : Text) :
    (ofSpelling spelling).Folded ↔ ¬ LeavesSuffix (.string (some spelling)) := by
  by_cases houter : ∃ inner commas, OuterSuffix (Text.trim spelling) inner commas
  · obtain ⟨inner, commas, houter⟩ := houter
    rw [Folded, ofSpelling_of_outerSuffix houter, rankOfCommas_eq_zero_iff]
    constructor
    · intro hfolded hleaves
      cases hleaves with
      | spelling hlost hinner =>
        obtain ⟨rfl, rfl⟩ := houter.unique hlost
        exact hfolded rfl _ _ hinner
    · intro hnot hfull front others hinner
      subst hfull
      exact hnot (.spelling houter hinner)
  · have hnone : ∀ inner commas, ¬ OuterSuffix (Text.trim spelling) inner commas := by
      simpa using houter
    rw [ofSpelling_of_not_outerSuffix hnone]
    refine iff_of_true (fun _ => hnone) ?_
    intro hleaves
    cases hleaves with
    | spelling hlost => exact hnone _ _ hlost

theorem leavesSuffix_object_iff {members : List (Json × Json)} {whole : Bool} {type : TypeRef}
    (h : ofJson? (.object members whole) = some type) :
    LeavesSuffix (.object members whole) ↔
      type.rank = 0 ∧ ∃ front commas, OuterSuffix type.name front commas := by
  obtain ⟨_, slot, hname, _, _, hfilled, hslot⟩ := filled_of_ofJson? h
  obtain ⟨hgives, honly⟩ := name_of_filled hname
  constructor
  · intro hleaves
    cases hleaves with
    | object hother hsuffix hrank =>
      cases honly _ hother
      refine ⟨?_, _, _, hsuffix⟩
      rw [hslot]
      cases hfilled with
      | kept => rfl
      | given hnumber hread => exact hrank _ _ hnumber (asRank?_eq_some_iff.mp hread)
  · intro hleft
    obtain ⟨hzero, front, commas, hsuffix⟩ := hleft
    refine .object hgives hsuffix ?_
    intro number rank hnumber hword
    rw [hslot] at hzero
    cases hfilled with
    | kept hnone => exact absurd hnumber (hnone number)
    | given _ hread honlyRank =>
      cases honlyRank number hnumber
      rw [asRank?_eq_some_iff, hword] at hread
      cases hread
      exact hzero

theorem folded_iff_of_ofJson? {form : Json} {type : TypeRef} (h : ofJson? form = some type) :
    type.Folded ↔ ¬ LeavesSuffix form := by
  cases form with
  | string content =>
    cases content with
    | none => cases h
    | some spelling =>
      rw [ofJson?, Option.some.injEq] at h
      rw [← h]
      exact folded_ofSpelling_iff spelling
  | object members whole =>
    rw [leavesSuffix_object_iff h, Folded]
    simp
  | null | bool | number | array | absent => cases h

theorem reader_eq_ok_iff {depth : Nat} {value : Json} {type : TypeRef} :
    reader depth value = .ok type ↔ value.readable depth = true ∧ ofJson? value = some type := by
  unfold reader
  split_ifs with hreadable
  · cases ofJson? value <;> simp [hreadable]
  · simp [hreadable]

/-- The references within one that is read are those of the values within its value, and they are
folded but for the values that leave a suffix. -/
theorem folded_of_reader {depth : Nat} {value : Json} {type : TypeRef}
    (h : reader depth value = .ok type) :
    (∀ node ∈ type.nodes, ∃ form, Within value form ∧ ofJson? form = some node ∧
      (node.Folded ↔ ¬ LeavesSuffix form)) ∧
    ((∀ node ∈ type.nodes, node.Folded) ↔ ∀ form, Within value form → ¬ LeavesSuffix form) := by
  have htype := (reader_eq_ok_iff.mp h).2
  constructor
  · intro node hm
    obtain ⟨form, hform, hnode⟩ := exists_form_of_mem_nodes type htype node hm
    exact ⟨form, hform, hnode, folded_iff_of_ofJson? hnode⟩
  · constructor
    · intro hfolded form hform
      obtain ⟨node, hm, hnode⟩ := exists_node_of_within hform htype
      exact (folded_iff_of_ofJson? hnode).mp (hfolded node hm)
    · intro hnone node hm
      obtain ⟨form, hform, hnode⟩ := exists_form_of_mem_nodes type htype node hm
      exact (folded_iff_of_ofJson? hnode).mpr (hnone form hform)

def widgets : TypeRef :=
  named "Acme.Widget[]"

theorem outerSuffix_widgets : OuterSuffix widgets.name "Acme.Widget" 0 :=
  ⟨by decide, by decide⟩

def widgetsForm : Json :=
  .object [(.string (some "name"), .string (some "Acme.Widget[]"))] true

/-- A list of widgets; its argument is the only value that leaves a suffix. -/
def listForm : Json :=
  .object
    [(.string (some "name"), .string (some "Acme.List\x601[][]")),
      (.string (some "array_rank"), .number "1"),
      (.string (some "arguments"), .array [widgetsForm, .string (some "Acme.Box[][]")] true)]
    true

def widgetLists : TypeRef :=
  ⟨"Acme.List\x601[][]", [widgets, ⟨"Acme.Box[]", [], 1⟩], 1⟩

theorem folded_of_reader_widgetLists :
    reader 3 listForm = .ok widgetLists ∧ Within listForm widgetsForm ∧
      LeavesSuffix widgetsForm ∧ ¬ ∀ node ∈ widgetLists.nodes, node.Folded := by
  have hread : reader 3 listForm = .ok widgetLists := by decide +kernel
  have hwithin : Within listForm widgetsForm :=
    .argument (List.mem_cons_of_mem _ (List.mem_cons_of_mem _ List.mem_cons_self))
      List.mem_cons_self (.self _)
  have hleaves : LeavesSuffix widgetsForm :=
    .object List.mem_cons_self outerSuffix_widgets (by simp [Gives])
  refine ⟨hread, hwithin, hleaves, ?_⟩
  intro hfolded
  exact (folded_of_reader hread).2.mp hfolded _ hwithin hleaves

/-- An object with a suffix in its name and no rank is taken as it stands. -/
theorem not_folded_widgets :
    Json.decode (reader Json.nestingLimit) (Text.utf8 "\x7b\"name\":\"Acme.Widget[]\"\x7d") =
      .ok widgets ∧ ¬ widgets.Folded := by
  refine ⟨by decide +kernel, ?_⟩
  intro hfolded
  exact hfolded rfl _ _ outerSuffix_widgets

end ContractProxy.TypeRef
