import GroupChat.Proofs.Text.LowerCase
import GroupChat.Store.Accounts

/-!
# Searching accounts by a part of their name

A search compares the small letters of the part with those of each name. It finds everybody in whose
name the part stands, as long as the part alone has the small letters that it has in the names. This
is so exactly if each of its capital sigmas is settled within the part: a name in capitals is not
always found by its own beginning.

## Main statements

- `mem_accountsNamed`: whom a search finds.
- `found_by_part_iff`: a part finds all names in which it stands exactly if it is firm, and what is
  found by more of a name is found by the part exactly if it is firm.
- `exists_not_found_by_part`: a name that is not found by its beginning.
-/

namespace GroupChat.Store

open Text

variable {s : Store} {a : Account} {part whole : String}

/-- `hasPart` looks for a part anywhere in a text. -/
theorem hasPart_iff {part cs : List Char} : hasPart part cs = true ↔ part <:+: cs := by
  induction cs with
  | nil => rw [hasPart, List.isEmpty_iff, List.infix_nil]
  | cons c cs ih =>
    rw [hasPart, Bool.or_eq_true, List.isPrefixOf_iff_prefix, ih, List.infix_cons_iff]

theorem nameMatches_iff {part name : String} :
    nameMatches part name = true ↔ lowerChars [] part.toList <:+: lowerChars [] name.toList := by
  rw [nameMatches, hasPart_iff, lowerCase, lowerCase, String.toList_ofList, String.toList_ofList]

/-- `accountsNamed` finds the accounts whose name, in small letters, has the small letters of the
part in it. -/
theorem mem_accountsNamed : a ∈ s.accountsNamed part ↔
    (∃ id, s.account? id = some a) ∧
      lowerChars [] part.toList <:+: lowerChars [] a.name.toList := by
  rw [accountsNamed, List.mem_mergeSort, List.mem_filter, Table.mem_values_iff, nameMatches_iff]
  rfl

/-- `accountsNamed` finds by a `Firm` part whatever it finds by more of the name. -/
theorem mem_accountsNamed_of_firm (hfirm : Firm part.toList)
    (hpart : part.toList <:+: whole.toList) (h : a ∈ s.accountsNamed whole) :
    a ∈ s.accountsNamed part := by
  rw [mem_accountsNamed] at h ⊢
  exact ⟨h.1, (lowerChars_infix_of_firm hfirm hpart).trans h.2⟩

theorem mem_accountsNamed_name {id : String} (h : s.account? id = some a) :
    a ∈ s.accountsNamed a.name :=
  mem_accountsNamed.2 ⟨⟨id, h⟩, List.infix_rfl⟩

/-- A part by which `accountsNamed` finds all names that have it is `Firm`: it is enough to try a
plain letter on either side. -/
theorem firm_of_mem_accountsNamed
    (h : ∀ (s : Store) (id : String) (a : Account), s.account? id = some a →
      part.toList <:+: a.name.toList → a ∈ s.accountsNamed part) : Firm part.toList := by
  -- a store with one account, whose name is at hand
  have hone : ∀ name : List Char, part.toList <:+: name →
      lowerChars [] part.toList <:+: lowerChars [] name := by
    intro name hname
    have hfound := h (ofAccounts [⟨"1", String.ofList name, .user⟩]) "1" _ rfl
      (by rwa [String.toList_ofList])
    simpa using (mem_accountsNamed.1 hfound).2
  refine firm_of_isInfix (hone _ ?_) (hone _ ?_)
  · exact (List.suffix_cons 'A' part.toList).isInfix
  · exact (List.prefix_append part.toList ['A']).isInfix

/-- **What a part of a name finds.** A part finds every account in whose name it stands exactly if
each of its capital sigmas is settled within it. And it finds every account that is found by more
than the part under the same condition. -/
theorem found_by_part_iff (part : String) :
    ((∀ (s : Store) (id : String) (a : Account), s.account? id = some a →
        part.toList <:+: a.name.toList → a ∈ s.accountsNamed part) ↔ Firm part.toList) ∧
      ((∀ (s : Store) (a : Account) (whole : String), part.toList <:+: whole.toList →
        a ∈ s.accountsNamed whole → a ∈ s.accountsNamed part) ↔ Firm part.toList) := by
  refine ⟨⟨firm_of_mem_accountsNamed, ?_⟩, ⟨fun h => ?_, ?_⟩⟩
  · intro hfirm s id a ha hpart
    exact mem_accountsNamed_of_firm hfirm hpart (mem_accountsNamed_name ha)
  · refine firm_of_mem_accountsNamed fun s id a ha hpart => ?_
    exact h s a a.name hpart (mem_accountsNamed_name ha)
  · intro hfirm s a whole hpart ha
    exact mem_accountsNamed_of_firm hfirm hpart ha

/-- `accountsNamed` finds a name in capitals as a whole, but not by its first two letters: a word
ends with the second one only if nothing follows. -/
theorem exists_not_found_by_part :
    ∃ (s : Store) (id : String) (a : Account), s.account? id = some a ∧
      "ΑΣ".toList <:+: a.name.toList ∧ a ∈ s.accountsNamed a.name ∧ a ∉ s.accountsNamed "ΑΣ" := by
  have hknown : (ofAccounts [⟨"1", "ΑΣΗΜΙΝΑ", .user⟩]).account? "1" =
      some ⟨"1", "ΑΣΗΜΙΝΑ", .user⟩ := by decide
  refine ⟨_, "1", _, hknown, hasPart_iff.1 (by decide), mem_accountsNamed_name hknown, ?_⟩
  have hnot : nameMatches "ΑΣ" "ΑΣΗΜΙΝΑ" = false := by decide +kernel
  intro hfound
  rw [nameMatches_iff.2 (mem_accountsNamed.1 hfound).2] at hnot
  cases hnot

end GroupChat.Store
