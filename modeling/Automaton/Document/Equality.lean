import Automaton.Document.Basic

/-!
# Equality of documents

Documents hold lists of documents, so their equality is decided together with that of items and of
members.  `Document.same` compares two documents part by part, and `Document.same_iff_eq` says that
it finds exactly those equal that are.
-/

namespace Automaton.Document

mutual

/-- Whether two documents are the same. -/
def same : Document → Document → Bool
  | .null, .null => true
  | .boolean a, .boolean b => a == b
  | .number a, .number b => a == b
  | .text a, .text b => a == b
  | .list ds, .list es => sameItems ds es
  | .record ms, .record ns => sameMembers ms ns
  | .unreadable a, .unreadable b => a == b
  | _, _ => false

/-- Whether the items of two lists are the same. -/
def sameItems : List Document → List Document → Bool
  | [], [] => true
  | d :: ds, e :: es => d.same e && sameItems ds es
  | _, _ => false

/-- Whether the members of two records are the same, in the same order. -/
def sameMembers : List (String × Document) → List (String × Document) → Bool
  | [], [] => true
  | (m, d) :: ms, (n, e) :: ns => m == n && d.same e && sameMembers ms ns
  | _, _ => false

end

-- the three comparisons call each other, and so do their three proofs
mutual

theorem same_iff_eq : (d e : Document) → (d.same e = true ↔ d = e)
  | .null, e | .boolean _, e | .number _, e | .text _, e | .unreadable _, e => by
    cases e <;> simp [same]
  | .list ds, e => by
    cases e <;> simp [same, sameItems_iff_eq ds]
  | .record ms, e => by
    cases e <;> simp [same, sameMembers_iff_eq ms]

theorem sameItems_iff_eq : (ds es : List Document) → (sameItems ds es = true ↔ ds = es)
  | [], es => by
    cases es <;> simp [sameItems]
  | d :: ds, es => by
    cases es <;> simp [sameItems, same_iff_eq d, sameItems_iff_eq ds]

theorem sameMembers_iff_eq :
    (ms ns : List (String × Document)) → (sameMembers ms ns = true ↔ ms = ns)
  | [], ns => by
    cases ns <;> simp [sameMembers]
  | (m, d) :: ms, ns => by
    cases ns <;> simp [sameMembers, same_iff_eq d, sameMembers_iff_eq ms, Prod.ext_iff]

end

instance : DecidableEq Document :=
  fun d e => decidable_of_iff (d.same e = true) (same_iff_eq d e)

end Automaton.Document
