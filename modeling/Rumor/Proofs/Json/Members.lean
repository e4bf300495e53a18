import Mathlib.Data.List.Nodup
import Rumor.Json.Value
import Rumor.Proofs.Json.Number

-- Objects with named members are read back as they were written.
namespace Rumor.Json

namespace Item

-- What an item is read as, by the lexer and then by the parser.
def tokens : Item → List Token
  | .null => [.null]
  | .integer n => [.number (Bytes.ascii (Decimal.ofInt n))]
  | .text s => [.string (Quoted.escaped s)]
  | .texts list =>
      .openArray ::
        List.intercalate [.comma] ((list.map Quoted.escaped).map fun raw => [.string raw]) ++
          [.closeArray]

def value : Item → Value
  | .null => .null
  | .integer n => .number (Bytes.ascii (Decimal.ofInt n))
  | .text s => .string (Quoted.escaped s)
  | .texts list => .array ((list.map Quoted.escaped).map .string)

theorem lexed (item : Item) : LexedUpTo item.compact item.tokens := by
  cases item with
  | null => exact Lexed.upTo fun _ => rfl
  | integer n => exact lexedUpTo_integer n
  | text s => exact (lexed_quoted s).upTo
  | texts list => exact (lexed_texts list).upTo

theorem foldlM_step (item : Item) (stack : List Value.Frame) :
    item.tokens.foldlM Value.Parse.step (.going .value stack) = Value.put item.value stack := by
  cases item with
  | null => simp [tokens, value, Value.Parse.step, Value.start]
  | integer n => simp [tokens, value, Value.Parse.step, Value.start]
  | text s => simp [tokens, value, Value.Parse.step, Value.start]
  | texts list => exact foldlM_step_array stack _

end Item

namespace Members

variable {mode : Value.Mode}

-- The name of a member, then what it holds.
def memberTokens (m : String × Item) : List Token :=
  .string (Quoted.escaped m.1) :: .colon :: m.2.tokens

def tokens (members : Members) : List Token :=
  .openObject :: List.intercalate [.comma] (members.map memberTokens) ++ [.closeObject]

-- As the parser leaves it: names are not read before they are asked for.
def written (members : Members) : List (Bytes × Value) :=
  members.map fun m => (Quoted.escaped m.1, m.2.value)

theorem lexed_pretty (members : Members) : Lexed members.pretty members.tokens := by
  have hopen : Lexed [0x7B] [.openObject] := fun _ => rfl
  have hindent : Lexed (Bytes.ascii "\n  ") [] := fun _ => rfl
  have hcolon : Lexed (Bytes.ascii ": ") [.colon] := fun _ => rfl
  have hclose : Lexed (Bytes.ascii "\n\x7d") [.closeObject] := fun _ => rfl
  have hend : Delimits 0x0A := delimits_of_mem (by decide)
  have hmembers := LexedUpTo.intercalate fun (m : String × Item) (_ : m ∈ members) =>
    ((hindent.append (lexed_quoted m.1)).append hcolon).append_upTo m.2.lexed
  exact (hopen.append_upTo hmembers).append hend hclose

-- A name may stand first in an object, or behind a comma.
theorem foldlM_step_member (hmode : mode = .first ∨ mode = .key) (read : List (Bytes × Value))
    (m : String × Item) :
    (memberTokens m).foldlM Value.Parse.step (.going mode [.members read]) =
      some (.going .after [.members ((Quoted.escaped m.1, m.2.value) :: read)]) := by
  have hname : Value.Parse.step (.going mode [.members read]) (.string (Quoted.escaped m.1)) =
      some (.going .colon [.member read (Quoted.escaped m.1)]) := by
    rcases hmode with rfl | rfl <;> rfl
  have hcolon : Value.Parse.step (.going .colon [.member read (Quoted.escaped m.1)]) .colon =
      some (.going .value [.member read (Quoted.escaped m.1)]) := rfl
  rw [memberTokens, List.foldlM_cons, hname, Option.bind_eq_bind, Option.bind_some,
    List.foldlM_cons, hcolon, Option.bind_eq_bind, Option.bind_some, m.2.foldlM_step]
  rfl

theorem ofTokens?_tokens (members : Members) :
    Value.ofTokens? members.tokens = some (.object members.written) := by
  have hopen : Value.Parse.step (.going .value []) .openObject =
      some (.going .first [.members []]) := rfl
  cases members with
  | nil => rfl
  | cons m rest =>
      have hcomma (read : List (Bytes × Value)) :
          Value.Parse.step (.going .after [.members read]) .comma =
            some (.going .key [.members read]) := rfl
      have hmembers :
          (List.intercalate [Token.comma] ((m :: rest).map memberTokens)).foldlM
              Value.Parse.step (.going .first [.members []]) =
            some (.going .after [.members ((written (m :: rest)).reverse ++ [])]) :=
        foldlM_step_separated hcomma (foldlM_step_member (Or.inr rfl))
          (foldlM_step_member (Or.inl rfl) [] m) rest
      rw [Value.ofTokens?, tokens, List.cons_append, List.foldlM_cons, hopen, Option.bind_eq_bind,
        Option.bind_some, List.foldlM_append, hmembers]
      simp [Value.Parse.step, Value.close, Value.put]

theorem parse?_pretty (members : Members) :
    Value.parse? members.pretty = some (.object members.written) := by
  rw [Value.parse?, (lexed_pretty members).ofBytes?, Option.bind_some, ofTokens?_tokens]

section Named

variable {named : List (String × Value)} {name : String} {value : Value}

theorem once?_of_mem (hnodup : (named.map Prod.fst).Nodup) (h : (name, value) ∈ named) :
    Value.once? name named = some (some value) := by
  obtain ⟨before, after, rfl⟩ := List.append_of_mem h
  rw [List.map_append, List.map_cons, List.nodup_middle, List.nodup_cons, List.mem_append, not_or] at hnodup
  obtain ⟨⟨hbefore, hafter⟩, _⟩ := hnodup
  have hnone : ∀ {members : List (String × Value)}, name ∉ members.map Prod.fst →
      members.filter (fun m => m.1 = name) = [] := by
    intro members hname
    rw [List.filter_eq_nil_iff]
    intro m hm hsame
    exact hname (of_decide_eq_true hsame ▸ List.mem_map_of_mem hm)
  have hfilter : (before ++ (name, value) :: after).filter (fun m => m.1 = name) =
      [(name, value)] := by
    rw [List.filter_append, List.filter_cons_of_pos (by simp), hnone hbefore, hnone hafter,
      List.nil_append]
  rw [Value.once?, hfilter]

end Named

-- Names that differ each find their own value.
theorem members?_written (members : Members) (hnodup : (members.map Prod.fst).Nodup) :
    Value.members? (members.map Prod.fst) (.object members.written) =
      some (members.map fun m => some m.2.value) := by
  let named : List (String × Value) := members.map fun m => (m.1, m.2.value)
  have hnames : named.map Prod.fst = members.map Prod.fst := by simp [named]
  have hvalues : (members.map Prod.fst).mapM (Value.once? · named) =
      some (members.map fun m => some m.2.value) :=
    mapM_map_of_forall fun m hm => once?_of_mem (hnames ▸ hnodup) (List.mem_map_of_mem hm)
  rw [Value.members?, written, mapM_map_of_forall (g := fun m => (m.1, m.2.value))]
  · exact hvalues
  · exact fun m _ => by simp [Quoted.decode_escaped]

end Members

section Text

open Utf8 (IsText isText_of_ascii)

theorem Quoted.ascii_escapeByte : ∀ n < 0x80, (escapeByte (.ofNat n)).all (· < 0x80) = true := by
  decide

theorem Quoted.escapeByte_of_le {b : UInt8} (h : 0x80 ≤ b) : escapeByte b = [b] := by
  have hquote : b ≠ Token.quote := by
    rintro rfl
    exact absurd h (by decide)
  have hbackslash : b ≠ Token.backslash := by
    rintro rfl
    exact absurd h (by decide)
  have hblank : 0x20 ≤ b := UInt8.le_trans (by decide) h
  rw [escapeByte, if_neg (not_or.mpr ⟨hquote, hbackslash⟩), if_pos hblank]

-- Only ASCII characters are escaped, and only such stand in an escape.
theorem Quoted.isText_escaped (text : String) : IsText (escaped text) := by
  have hchar (c : Char) : IsText ((Utf8.encodeChar c).flatMap escapeByte) := by
    rcases Nat.lt_or_ge c.toNat 0x80 with hascii | hother
    · have hbyte : Utf8.encodeChar c = [.ofNat c.toNat] := by
        conv_lhs => rw [← Char.ofNat_toNat c]
        exact Utf8.encodeChar_ascii c.toNat hascii
      rw [hbyte, List.flatMap_singleton]
      exact isText_of_ascii (ascii_escapeByte c.toNat hascii)
    · have hplain : ∀ b ∈ Utf8.encodeChar c, escapeByte b = [b] :=
        fun b hb => escapeByte_of_le (Utf8.le_of_mem_encodeChar hother b hb)
      refine ⟨String.ofList [c], ?_⟩
      rw [List.flatMap_def, List.map_congr_left hplain, ← List.flatMap_def]
      simp [Utf8.encode]
  rw [escaped, Utf8.encode, List.flatMap_assoc]
  exact Utf8.isText_flatMap hchar text.toList

theorem Quoted.isText_encode (text : String) : IsText (encode text) := by
  have hquote : IsText [Token.quote] := isText_of_ascii (by decide)
  exact (hquote.append (isText_escaped text)).append hquote

theorem isText_ofNat (n : Nat) : IsText (Bytes.ascii (Decimal.ofNat n)) := by
  refine ⟨Decimal.ofNat n, ?_⟩
  rw [Decimal.encode_ofNat, Bytes.ascii, Decimal.ofNat, String.toList_ofList]

theorem Item.isText_compact (item : Item) : IsText item.compact := by
  cases item with
  | null => exact isText_of_ascii (by decide)
  | integer n =>
      cases n with
      | ofNat n => exact isText_ofNat n
      | negSucc n =>
          have hsign : IsText [0x2D] := isText_of_ascii (by decide)
          rw [compact, ascii_ofInt_negSucc]
          exact hsign.append (isText_ofNat (n + 1))
  | text s => exact Quoted.isText_encode s
  | texts list =>
      have hopen : IsText [0x5B] := isText_of_ascii (by decide)
      have hcomma : IsText [0x2C] := isText_of_ascii (by decide)
      have hclose : IsText [0x5D] := isText_of_ascii (by decide)
      have hitems : IsText (List.intercalate [0x2C] (list.map Quoted.encode)) :=
        Utf8.isText_intercalate hcomma
        (List.forall_mem_map.mpr fun text _ => Quoted.isText_encode text)
      exact (hopen.append hitems).append hclose

theorem Members.isText_pretty (members : Members) : IsText members.pretty := by
  have hopen : IsText [0x7B] := isText_of_ascii (by decide)
  have hcomma : IsText [0x2C] := isText_of_ascii (by decide)
  have hindent : IsText (Bytes.ascii "\n  ") := isText_of_ascii (by decide)
  have hcolon : IsText (Bytes.ascii ": ") := isText_of_ascii (by decide)
  have hclose : IsText (Bytes.ascii "\n\x7d") := isText_of_ascii (by decide)
  have hmember (m : String × Item) :
      IsText (Bytes.ascii "\n  " ++ Quoted.encode m.1 ++ Bytes.ascii ": " ++ m.2.compact) :=
    ((hindent.append (Quoted.isText_encode m.1)).append hcolon).append m.2.isText_compact
  have hmembers :=
    Utf8.isText_intercalate hcomma (List.forall_mem_map.mpr fun m (_ : m ∈ members) => hmember m)
  exact (hopen.append hmembers).append hclose

end Text

end Rumor.Json
