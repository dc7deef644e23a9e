/-!
Line ends. A carriage return, alone or before a line feed, ends a line just as a line feed does;
text is read with line feeds only.
-/

namespace SignOn.Text

def unifyNewlines : List Char → List Char
  | [] => []
  | '\r' :: '\n' :: cs => '\n' :: unifyNewlines cs
  | c :: cs => (if c = '\r' then '\n' else c) :: unifyNewlines cs

theorem unifyNewlines_eq_self {cs : List Char} (absent : '\r' ∉ cs) : unifyNewlines cs = cs := by
  fun_induction unifyNewlines cs with
  | case1 => rfl
  | case2 rest ih => simp at absent
  | case3 c rest _ ih =>
    simp only [List.mem_cons, not_or] at absent
    rw [ih absent.2, if_neg (fun same => absent.1 same.symm)]

end SignOn.Text
