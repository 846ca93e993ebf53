import GoGlue.Name.Claim

/-!
# How a text begins and ends

Generated lines are told apart by their first words, or their first or last characters, and the names of the package
stand between these.

* `beginsWith_append`, `beginsWith_head?`: a text that begins with a word.
* `head?_append`, `head?_intercalate`, `getLast?_append`: what decides the first and the last character.
-/
namespace GoGlue

theorem beginsWith_append (start rest : String) : beginsWith start (start ++ rest) = true := by
  unfold beginsWith
  rw [String.toList_append, List.isPrefixOf_iff_prefix]
  exact List.prefix_append _ _

theorem beginsWith_head? {word t : String} {c : Char} (h : beginsWith word t = true)
    (hw : word.toList.head? = some c) : t.toList.head? = some c := by
  obtain ⟨rest, hr⟩ := List.isPrefixOf_iff_prefix.1 h
  rw [← hr, List.head?_append, hw]
  rfl

namespace Text

variable {a b : String} {c : Char}

theorem head?_append (h : a.toList.head? = some c) (b : String) : (a ++ b).toList.head? = some c := by
  rw [String.toList_append, List.head?_append, h]
  rfl

theorem getLast?_append (a : String) (h : b.toList.getLast? = some c) : (a ++ b).toList.getLast? = some c := by
  rw [String.toList_append, List.getLast?_append, h]
  rfl

theorem head?_intercalate {v : String} (h : v.toList.head? = some c) (rest : List String) :
    (", ".intercalate (v :: rest)).toList.head? = some c := by
  cases rest with
  | nil => simpa using h
  | cons w rest =>
    rw [String.intercalate_cons_of_ne_nil (by simp)]
    exact head?_append (head?_append h ", ") _

end Text

end GoGlue
