/-!
# Blank characters

The characters that carry the Unicode property White_Space, and trimming them from both ends
of a text.  Core's `Char.isWhitespace` knows only four ASCII blanks, so a dialect name typed
with a no-break space or an ideographic space needs this wider class.

The main statement is `isBlank_of_isWhitespace`: every blank core knows is blank here too.
-/

namespace SqlSyntax.Text

/-- A character is blank when it has the Unicode property White_Space: tab through carriage
return, space, next line, no-break space, Ogham space mark, en quad through hair space, the line
and paragraph separators, narrow no-break space, medium mathematical space and ideographic
space. -/
def isBlank (c : Char) : Bool :=
  let n := c.toNat
  (0x09 ≤ n && n ≤ 0x0D) || n == 0x20 || n == 0x85 || n == 0xA0 || n == 0x1680 ||
    (0x2000 ≤ n && n ≤ 0x200A) || n == 0x2028 || n == 0x2029 || n == 0x202F ||
    n == 0x205F || n == 0x3000

/-- The text without its leading and trailing blanks. -/
def trimBlank (s : String) : String :=
  String.ofList ((s.toList.dropWhile isBlank).reverse.dropWhile isBlank).reverse

theorem isBlank_of_isWhitespace (c : Char) (h : c.isWhitespace = true) : isBlank c = true := by
  simp only [Char.isWhitespace, Bool.or_eq_true, decide_eq_true_eq] at h
  rcases h with ((h | h) | h) | h <;> subst h <;> decide

example : trimBlank "  MySQL　" = "MySQL" := by decide

end SqlSyntax.Text
