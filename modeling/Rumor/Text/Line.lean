namespace Rumor.Text

-- The characters with the Unicode property White_Space.
def isBlank (c : Char) : Bool :=
  let n := c.toNat
  (9 ≤ n && n ≤ 13) || n == 0x20 || n == 0x85 || n == 0xA0 || n == 0x1680 ||
    (0x2000 ≤ n && n ≤ 0x200A) || n == 0x2028 || n == 0x2029 || n == 0x202F || n == 0x205F ||
    n == 0x3000

def trim (text : String) : String :=
  String.ofList ((text.toList.dropWhile isBlank).reverse.dropWhile isBlank).reverse

theorem dropWhile_isBlank {chars : List Char} {c : Char} (hc : chars.head? = some c)
    (h : isBlank c = false) : chars.dropWhile isBlank = chars := by
  obtain ⟨rest, rfl⟩ := List.head?_eq_some_iff.mp hc
  exact List.dropWhile_cons_of_neg (by simp [h])

-- A text that neither begins nor ends with a blank is what is left of its line.
theorem trim_append_newline {text : String} {first last : Char}
    (hfirst : text.toList.head? = some first) (hlast : text.toList.getLast? = some last)
    (h : isBlank first = false) (h' : isBlank last = false) : trim (text ++ "\n") = text := by
  have hnewline : isBlank '\n' = true := by decide
  have hfront : (text.toList ++ ['\n']).dropWhile isBlank = text.toList ++ ['\n'] := by
    have hhead : (text.toList ++ ['\n']).head? = some first := by
      rw [List.head?_append, hfirst, Option.some_or]
    exact dropWhile_isBlank hhead h
  have hback : (text.toList ++ ['\n']).reverse.dropWhile isBlank = text.toList.reverse := by
    rw [List.reverse_append, List.reverse_singleton, List.singleton_append,
      List.dropWhile_cons_of_pos hnewline]
    exact dropWhile_isBlank (List.head?_reverse.trans hlast) h'
  rw [trim, String.toList_append, show "\n".toList = ['\n'] from rfl, hfront, hback,
    List.reverse_reverse, String.ofList_toList]

-- The text in front of the first line end, which may have a carriage return in
-- front of its line feed.
def firstLine (text : String) : String :=
  let chars := text.toList
  let line := chars.takeWhile (· ≠ '\n')
  let isEnded := chars.contains '\n'
  String.ofList (if isEnded && line.getLast? = some '\r' then line.dropLast else line)

end Rumor.Text
