import ContractProxy.Text.Keyed

/-!
Qualification data of a candidate: texts under keys. Data with the same values are the same, however
they were put together.
-/

set_option autoImplicit false

namespace ContractProxy

structure Qualifications where
  entries : Keyed Text
  ascending : entries.Ascending
  deriving DecidableEq, Repr

namespace Qualifications

def empty : Qualifications := ⟨[], .nil⟩

def get? (q : Qualifications) (key : Text) : Option Text :=
  q.entries.lookup key

def insert (q : Qualifications) (key value : Text) : Qualifications :=
  ⟨q.entries.put key value, Keyed.ascending_put key value q.ascending⟩

theorem get?_insert (q : Qualifications) (key value other : Text) :
    (q.insert key value).get? other = if other = key then some value else q.get? other :=
  Keyed.lookup_put key value other q.entries

theorem ext_get? {q r : Qualifications} (h : ∀ key, q.get? key = r.get? key) : q = r := by
  obtain ⟨entries, ascending⟩ := q
  obtain ⟨entries', ascending'⟩ := r
  have same : entries = entries' := Keyed.eq_of_lookup ascending ascending' h
  subst same
  rfl

end Qualifications

end ContractProxy
