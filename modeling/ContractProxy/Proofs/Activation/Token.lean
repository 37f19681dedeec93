import ContractProxy.Activation.Token
import ContractProxy.Proofs.Json.Tree
import Mathlib.Tactic.TFAE

/-!
Tokens in JSON. Main statement: a token is read back from its compact text, and tokens of one name
that were qualified step by step have the same text exactly if the last value put at each key is the
same.
-/

set_option autoImplicit false

namespace ContractProxy

namespace Qualifications

def putAll (q : Qualifications) (entries : List (Text × Text)) : Qualifications :=
  entries.foldl (fun q entry => q.insert entry.1 entry.2) q

/-- The value that was put at a key last. -/
def finalValue? (entries : List (Text × Text)) (key : Text) : Option Text :=
  entries.reverse.lookup key

theorem finalValue?_cons (entry : Text × Text) (rest : List (Text × Text)) (key : Text) :
    finalValue? (entry :: rest) key = (finalValue? rest key).or ([entry].lookup key) := by
  rw [finalValue?, List.reverse_cons, List.lookup_append]
  rfl

theorem get?_putAll (q : Qualifications) (entries : List (Text × Text)) (key : Text) :
    (q.putAll entries).get? key = (finalValue? entries key).or (q.get? key) := by
  induction entries generalizing q with
  | nil => rfl
  | cons entry rest ih =>
    obtain ⟨first, value⟩ := entry
    have hsingle : ([(first, value)].lookup key).or (q.get? key) =
        (q.insert first value).get? key := by
      rw [get?_insert, lookup_cons]
      split_ifs <;> rfl
    rw [finalValue?_cons, Option.or_assoc, hsingle]
    exact ih _

theorem putAll_eq_putAll_iff {s t : List (Text × Text)} :
    empty.putAll s = empty.putAll t ↔ ∀ key, finalValue? s key = finalValue? t key := by
  have hvalue : ∀ entries key, (empty.putAll entries).get? key = finalValue? entries key := by
    intro entries key
    rw [get?_putAll]
    exact Option.or_none
  constructor
  · intro h key
    rw [← hvalue, h, hvalue]
  · intro h
    refine ext_get? fun key => ?_
    rw [hvalue, h, hvalue]

theorem finalValue?_of_ascending {entries : Keyed Text} (h : entries.Ascending) (key : Text) :
    finalValue? entries key = entries.lookup key := by
  induction entries with
  | nil => rfl
  | cons entry rest ih =>
    obtain ⟨first, value⟩ := entry
    obtain ⟨hfirst, hrest⟩ := Keyed.ascending_cons.mp h
    rw [finalValue?_cons, ih hrest, lookup_cons, lookup_cons]
    split_ifs with hkey
    · rw [hkey, Keyed.lookup_eq_none_of_precedes hfirst]
      rfl
    · exact Option.or_none

theorem putAll_entries (q : Qualifications) : empty.putAll q.entries = q := by
  refine ext_get? fun key => ?_
  rw [get?_putAll, finalValue?_of_ascending q.ascending]
  exact Option.or_none

end Qualifications

namespace Token

theorem qualificationReader_ofMembers (entries : List (Text × Text)) :
    qualificationReader (Json.ofMembers (entries.map fun (key, value) => (key, Json.ofText value))) =
      .ok (Qualifications.empty.putAll entries) := by
  have hread : ∀ given : Qualifications, Json.readMembers
      (fun given key => some fun value => (Json.asText value).map (given.insert key)) true given
      (entries.map fun (key, value) => (Json.ofText key, Json.ofText value)) =
        .ok (given.putAll entries) := by
    induction entries with
    | nil => exact fun _ => rfl
    | cons entry rest ih => exact fun given => ih (given.insert entry.1 entry.2)
  rw [Json.ofMembers, List.map_map]
  exact hread .empty

theorem reader_toJson (token : Token) : reader token.toJson = .ok token := by
  have hqualifications : qualificationReader (qualificationsJson token.qualifications) =
      .ok token.qualifications := by
    rw [qualificationsJson, qualificationReader_ofMembers, Qualifications.putAll_entries]
  simp [toJson, Json.ofMembers, Json.ofText, reader, Json.readMembers, member, Json.once,
    Json.asText, hqualifications, Except.map, bind, Except.bind, Json.required]

theorem printable_toJson (token : Token) : token.toJson.Printable := by
  have hqualifications : (qualificationsJson token.qualifications).Printable := by
    refine Json.printable_ofMembers ?_
    exact List.forall_mem_map.mpr fun entry _ => Json.printable_ofText entry.2
  refine Json.printable_ofMembers ?_
  simp [Json.printable_ofText, hqualifications]

theorem ofBytes_text (token : Token) : ofBytes (Text.utf8 token.toJson.render) = .ok token := by
  rw [ofBytes, Json.decode, Json.read_render token.printable_toJson]
  simp [reader_toJson, bind, Except.bind]

theorem render_toJson_inj {token other : Token} :
    token.toJson.render = other.toJson.render ↔ token = other := by
  refine ⟨fun h => ?_, fun h => by rw [h]⟩
  have hread := ofBytes_text token
  rw [h, ofBytes_text] at hread
  exact (Except.ok.inj hread).symm

def qualifyAll (token : Token) (entries : List (Text × Text)) : Token :=
  entries.foldl (fun token entry => token.qualify entry.1 entry.2) token

theorem qualifyAll_eq (token : Token) (entries : List (Text × Text)) :
    token.qualifyAll entries =
      { token with qualifications := token.qualifications.putAll entries } := by
  induction entries generalizing token with
  | nil => rfl
  | cons entry rest ih => exact ih (token.qualify entry.1 entry.2)

theorem qualifyAll_named_inj {name : Text} {s t : List (Text × Text)} :
    (named name).qualifyAll s = (named name).qualifyAll t ↔
      ∀ key, Qualifications.finalValue? s key = Qualifications.finalValue? t key := by
  rw [qualifyAll_eq, qualifyAll_eq, ← Qualifications.putAll_eq_putAll_iff, Token.mk.injEq]
  simp [named]

/-- A token is read back from its text. Its text says no more than its name and the last value at
each key, however the values were put there. -/
theorem ofBytes_render_canonical :
    (∀ token : Token, ofBytes (Text.utf8 token.toJson.render) = .ok token ∧
      (ofBytes (Text.utf8 token.toJson.render)).map platform = .ok token.platform) ∧
    ∀ (name : Text) (s t : List (Text × Text)), List.TFAE
      [∀ key, Qualifications.finalValue? s key = Qualifications.finalValue? t key,
        (named name).qualifyAll s = (named name).qualifyAll t,
        ((named name).qualifyAll s).toJson.render = ((named name).qualifyAll t).toJson.render] := by
  refine ⟨fun token => ?_, fun name s t => ?_⟩
  · rw [ofBytes_text]
    exact ⟨rfl, rfl⟩
  · tfae_have 1 ↔ 2 := qualifyAll_named_inj.symm
    tfae_have 3 ↔ 2 := render_toJson_inj
    tfae_finish

example :
    ((named "t").qualifyAll [("b\n", "1"), ("a", "2"), ("b\n", "3")]).toJson.render =
      ((named "t").qualifyAll [("a", "2"), ("b\n", "3")]).toJson.render := by
  decide +kernel

end Token

end ContractProxy
