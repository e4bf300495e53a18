import Rumor.Json.Printer
import Rumor.Json.Value
import Rumor.Proofs.Digits

-- What is written as text between quotes, and as a list of texts, is read back.
namespace Rumor.Json

open Token (quote backslash Lexer)

namespace Quoted

-- The ways in which a byte of a text is written.
inductive Escape (b : UInt8) : Bytes → Prop
  | plain (hquote : b ≠ quote) (hbackslash : b ≠ backslash) (hblank : 0x20 ≤ b) : Escape b [b]
  | short {c : UInt8} (hcode : c ≠ 0x75) (hescape : Token.isEscape c = true)
      (hback : unescapeByte? c = some b) :
      Escape b [backslash, c]
  | code {high low : UInt8} (hascii : b.toNat < 0x80)
      (hhigh : Hex.digit? high = some (b.toNat / 16))
      (hlow : Hex.digit? low = some (b.toNat % 16)) :
      Escape b [backslash, 0x75, 0x30, 0x30, high, low]

theorem escape_escapeByte (b : UInt8) : Escape b (escapeByte b) := by
  unfold escapeByte
  split
  · rename_i h
    rcases h with rfl | rfl
    · exact .short (by decide) (by decide) (by decide)
    · exact .short (by decide) (by decide) (by decide)
  · rename_i h
    obtain ⟨hquote, hbackslash⟩ := not_or.mp h
    split
    · rename_i hblank
      exact .plain hquote hbackslash hblank
    · rename_i hblank
      have hcontrol : b.toNat < 0x20 := UInt8.lt_iff_toNat_lt.mp (UInt8.not_le.mp hblank)
      repeat' split
      case isFalse.isFalse.isFalse.isFalse.isFalse =>
        exact .code (by omega) (Hex.digit?_digit _ (by omega)) (Hex.digit?_digit _ (by omega))
      all_goals
        rename_i hb
        subst hb
        exact .short (by decide) (by decide) (by decide)

theorem unescape_plain {b : UInt8} (h : b ≠ backslash) (read rest : Bytes) :
    unescape read (b :: rest) = unescape (b :: read) rest := by
  cases rest with
  | nil => simp [unescape, h]
  | cons c rest =>
      rw [unescape.eq_def]
      simp [h]

theorem unescape_short {c e : UInt8} (hcode : c ≠ 0x75) (h : unescapeByte? c = some e)
    (read rest : Bytes) : unescape read (backslash :: c :: rest) = unescape (e :: read) rest := by
  rw [unescape.eq_def]
  simp [hcode, h]

theorem unescape_code {h i j k : UInt8} {n : Nat} (hcode : codeUnit? h i j k = some n)
    (hascii : n < 0x80) (read rest : Bytes) :
    unescape read (backslash :: 0x75 :: h :: i :: j :: k :: rest) =
      unescape (.ofNat n :: read) rest := by
  have hsmall : n < 0xD800 := by omega
  have hchar := Utf8.encodeChar_ascii n hascii
  rw [unescape.eq_def]
  simp [hcode, hsmall, hchar]

theorem unescape_escapeByte (read rest : Bytes) (b : UInt8) :
    unescape read (escapeByte b ++ rest) = unescape (b :: read) rest := by
  generalize hbytes : escapeByte b = bytes
  cases hbytes ▸ escape_escapeByte b with
  | plain _ hbackslash _ => exact unescape_plain hbackslash read rest
  | short hcode _ hback => exact unescape_short hcode hback read rest
  | @code high low hascii hhigh hlow =>
      have hcode : codeUnit? 0x30 0x30 high low = some b.toNat := by
        have hzero : Hex.digit? 0x30 = some 0 := rfl
        simp [codeUnit?, hzero, hhigh, hlow]
        omega
      rw [← UInt8.ofNat_toNat (x := b)]
      exact unescape_code hcode hascii read rest

theorem unescape_flatMap (read bytes : Bytes) :
    unescape read (bytes.flatMap escapeByte) = some (read.reverse ++ bytes) := by
  induction bytes generalizing read with
  | nil => simp [unescape]
  | cons b rest ih =>
      rw [List.flatMap_cons, unescape_escapeByte, ih, List.reverse_cons, List.append_assoc,
        List.singleton_append]

-- What stands between the quotes of `text`.
def escaped (text : String) : Bytes :=
  (Utf8.encode text).flatMap escapeByte

theorem decode_escaped (text : String) : decode (escaped text) = some text := by
  rw [decode, escaped, unescape_flatMap]
  simp [Utf8.decode_encode, Except.toOption]

theorem length_le_length_encode (text : String) :
    text.toList.length + 2 ≤ (encode text).length := by
  have hescape (b : UInt8) : 0 < (escapeByte b).length := by
    unfold escapeByte
    repeat' split
    all_goals exact Nat.succ_pos _
  have hbytes := Utf8.length_le_length_encode text
  have hquoted := Bytes.length_le_length_flatMap hescape (Utf8.encode text)
  simp only [encode, List.cons_append, List.length_cons, List.length_append, List.length_nil]
  omega

end Quoted

section Tokens

variable {bytes bytes' raw : Bytes} {tokens tokens' : List Token} {token : Token}

-- Where a token may begin, `bytes` are read as `tokens`, and another may begin.
def Lexed (bytes : Bytes) (tokens : List Token) : Prop :=
  ∀ before, bytes.foldlM Lexer.step ⟨.between, before⟩ = some ⟨.between, tokens.reverse ++ before⟩

theorem Lexed.nil : Lexed [] [] :=
  fun _ => rfl

theorem Lexed.append (h : Lexed bytes tokens) (h' : Lexed bytes' tokens') :
    Lexed (bytes ++ bytes') (tokens ++ tokens') := by
  intro before
  rw [List.foldlM_append, h before]
  simpa using h' (tokens.reverse ++ before)

theorem Lexed.ofBytes? (h : Lexed bytes tokens) : Token.ofBytes? bytes = some tokens := by
  simp [Token.ofBytes?, h [], Lexer.finish]

-- Escapes leave a text open.
theorem foldlM_step_escapeByte (read : Bytes) (before : List Token) (b : UInt8) :
    (Quoted.escapeByte b).foldlM Lexer.step ⟨.string read, before⟩ =
      some ⟨.string ((Quoted.escapeByte b).reverse ++ read), before⟩ := by
  generalize hbytes : Quoted.escapeByte b = bytes
  cases hbytes ▸ Quoted.escape_escapeByte b with
  | plain hquote hbackslash hblank =>
      have hlow : ¬b < 0x20 := UInt8.not_lt.mpr hblank
      simp [Lexer.step, hquote, hbackslash, hlow]
  | short hcode hescape hback =>
      have hquote : backslash ≠ quote := by decide
      simp [Lexer.step, hquote, hcode, hescape]
  | code hascii hhigh hlow =>
      have hquote : backslash ≠ quote := by decide
      have hzero : Hex.digit? 0x30 = some 0 := rfl
      simp [Lexer.step, hquote, hzero, hhigh, hlow]

theorem foldlM_step_escaped (read bytes : Bytes) (before : List Token) :
    (bytes.flatMap Quoted.escapeByte).foldlM Lexer.step ⟨.string read, before⟩ =
      some ⟨.string ((bytes.flatMap Quoted.escapeByte).reverse ++ read), before⟩ := by
  induction bytes generalizing read with
  | nil => rfl
  | cons b rest ih =>
      rw [List.flatMap_cons, List.foldlM_append, foldlM_step_escapeByte]
      simpa using ih _

theorem lexed_quoted (text : String) :
    Lexed (Quoted.encode text) [.string (Quoted.escaped text)] := by
  intro before
  have hopen : Lexer.step ⟨.between, before⟩ quote = some ⟨.string [], before⟩ := rfl
  rw [Quoted.encode, List.cons_append, List.foldlM_cons, hopen]
  show ((Utf8.encode text).flatMap Quoted.escapeByte ++ [quote]).foldlM Lexer.step
    ⟨.string [], before⟩ = _
  rw [List.foldlM_append, foldlM_step_escaped]
  simp [Lexer.step, Lexer.emit, Quoted.escaped]

-- No number goes on with `b`, so one that stands in front of it has ended.
def Delimits (b : UInt8) : Prop :=
  ∀ at_ : Token.Digits, at_.next? b = none

-- A comma, the end of a list, and the end of a line.
theorem delimits_of_mem {b : UInt8} (h : b ∈ [0x2C, 0x5D, 0x0A]) : Delimits b := by
  simp only [List.mem_cons, List.not_mem_nil, or_false] at h
  intro at_
  rcases h with rfl | rfl | rfl <;> cases at_ <;> rfl

-- As `Lexed`, but only what stands behind `bytes` ends the last token.
def LexedUpTo (bytes : Bytes) (tokens : List Token) : Prop :=
  ∀ before b, Delimits b →
    (bytes ++ [b]).foldlM Lexer.step ⟨.between, before⟩ =
      Lexer.step ⟨.between, tokens.reverse ++ before⟩ b

theorem Lexed.upTo (h : Lexed bytes tokens) : LexedUpTo bytes tokens := by
  intro before b _
  rw [List.foldlM_append, h before]
  simp

theorem Lexed.append_upTo (h : Lexed bytes tokens) (h' : LexedUpTo bytes' tokens') :
    LexedUpTo (bytes ++ bytes') (tokens ++ tokens') := by
  intro before b hb
  rw [List.append_assoc, List.foldlM_append, h before]
  simpa using h' (tokens.reverse ++ before) b hb

theorem LexedUpTo.foldlM_append {b : UInt8} (h : LexedUpTo bytes tokens) (hb : Delimits b)
    (before : List Token)
    (rest : Bytes) : (bytes ++ b :: rest).foldlM Lexer.step ⟨.between, before⟩ =
      (b :: rest).foldlM Lexer.step ⟨.between, tokens.reverse ++ before⟩ := by
  rw [List.append_cons, List.foldlM_append, h before b hb, List.foldlM_cons]

theorem LexedUpTo.append {b : UInt8} (h : LexedUpTo bytes tokens) (hb : Delimits b)
    (h' : Lexed (b :: bytes') tokens') : Lexed (bytes ++ b :: bytes') (tokens ++ tokens') := by
  intro before
  rw [h.foldlM_append hb before bytes', h' (tokens.reverse ++ before)]
  simp

theorem LexedUpTo.append_upTo {b : UInt8} (h : LexedUpTo bytes tokens) (hb : Delimits b)
    (h' : LexedUpTo (b :: bytes') tokens') :
    LexedUpTo (bytes ++ b :: bytes') (tokens ++ tokens') := by
  intro before c hc
  rw [List.append_assoc, List.cons_append, h.foldlM_append hb before]
  simpa using h' (tokens.reverse ++ before) c hc

theorem LexedUpTo.intercalate {α : Type} {f : α → Bytes} {g : α → List Token} {list : List α}
    (h : ∀ a ∈ list, LexedUpTo (f a) (g a)) :
    LexedUpTo (List.intercalate [0x2C] (list.map f)) (List.intercalate [.comma] (list.map g)) := by
  have hcomma : Lexed [0x2C] [.comma] := fun _ => rfl
  induction list with
  | nil => exact Lexed.nil.upTo
  | cons a rest ih =>
      have ha := h a (List.mem_cons_self)
      have hrest := ih fun b hb => h b (List.mem_cons_of_mem a hb)
      cases rest with
      | nil => simpa using ha
      | cons b rest =>
          simp only [List.map_cons, List.intercalate_cons_cons] at hrest ⊢
          have hfollow := ha.append_upTo (delimits_of_mem (by decide)) (hcomma.append_upTo hrest)
          simpa using hfollow

end Tokens

section Texts

-- What is separated by commas joins what was read before. The first of it stands at `s`,
-- which may leave the choice to have nothing at all; behind a comma something has to come.
theorem foldlM_step_separated {α β : Type} {tokens : α → List Token} {value : α → β}
    {next after : List β → Value.Parse}
    (hcomma : ∀ read, (after read).step .comma = some (next read))
    (hitem : ∀ read a,
      (tokens a).foldlM Value.Parse.step (next read) = some (after (value a :: read)))
    {s : Value.Parse} {read : List β} {a : α}
    (hfirst : (tokens a).foldlM Value.Parse.step s = some (after (value a :: read)))
    (rest : List α) :
    (List.intercalate [Token.comma] ((a :: rest).map tokens)).foldlM Value.Parse.step s =
      some (after (((a :: rest).map value).reverse ++ read)) := by
  induction rest generalizing s read a with
  | nil => simpa using hfirst
  | cons b rest ih =>
      have hrest := ih (hitem (value a :: read) b)
      simp only [List.map_cons, List.intercalate_cons_cons] at hrest ⊢
      rw [List.append_assoc, List.foldlM_append, hfirst]
      simpa [hcomma] using hrest

-- Wherever a list may stand, it is read as one value.
theorem foldlM_step_array (stack : List Value.Frame) (raws : List Bytes) :
    (Token.openArray :: List.intercalate [.comma] (raws.map fun raw => [.string raw]) ++
        [Token.closeArray]).foldlM Value.Parse.step (.going .value stack) =
      Value.put (.array (raws.map .string)) stack := by
  cases raws with
  | nil => simp [Value.Parse.step, Value.start, Value.close]
  | cons raw rest =>
      have hcomma (read : List Value) :
          Value.Parse.step (.going .after (.items read :: stack)) .comma =
            some (.going .value (.items read :: stack)) := rfl
      have hitem (read : List Value) (raw : Bytes) :
          [Token.string raw].foldlM Value.Parse.step (.going .value (.items read :: stack)) =
            some (.going .after (.items (.string raw :: read) :: stack)) := rfl
      have hitems :
          (List.intercalate [Token.comma] ((raw :: rest).map fun raw => [.string raw])).foldlM
              Value.Parse.step (.going .first (.items [] :: stack)) =
            some
              (.going .after (.items (((raw :: rest).map Value.string).reverse ++ []) :: stack)) :=
        foldlM_step_separated hcomma hitem rfl rest
      rw [List.cons_append, List.foldlM_cons]
      show
        (_ ++ [Token.closeArray]).foldlM Value.Parse.step (.going .first (.items [] :: stack)) = _
      rw [List.foldlM_append, hitems]
      simp [Value.Parse.step, Value.close]

theorem ofTokens?_array (raws : List Bytes) :
    Value.ofTokens? (.openArray :: List.intercalate [.comma] (raws.map fun raw => [.string raw]) ++
        [.closeArray]) =
      some (.array (raws.map .string)) := by
  rw [Value.ofTokens?, foldlM_step_array]
  rfl

-- A list that can be read item by item is read.
theorem mapM_map_of_forall {α β γ : Type} {f : α → β} {read : β → Option γ} {g : α → γ}
    {list : List α} (h : ∀ a ∈ list, read (f a) = some (g a)) :
    (list.map f).mapM read = some (list.map g) := by
  induction list with
  | nil => rfl
  | cons a rest ih =>
      have hrest := ih fun b hb => h b (List.mem_cons_of_mem a hb)
      rw [List.map_cons, List.mapM_cons, h a List.mem_cons_self, hrest]
      rfl

theorem mapM_text?_escaped (list : List String) :
    ((list.map Quoted.escaped).map Value.string).mapM Value.text? = some list := by
  have htext : ∀ text ∈ list, Value.text? (.string (Quoted.escaped text)) = some text :=
    fun text _ => Quoted.decode_escaped text
  rw [List.map_map]
  exact (mapM_map_of_forall htext).trans (by rw [List.map_id'])

theorem lexed_texts (list : List String) :
    Lexed (Item.texts list).compact
      (Token.openArray ::
        List.intercalate [.comma] ((list.map Quoted.escaped).map fun raw => [.string raw]) ++
          [Token.closeArray]) := by
  have hopen : Lexed [0x5B] [.openArray] := fun _ => rfl
  have hclose : Lexed [0x5D] [.closeArray] := fun _ => rfl
  have hend : Delimits 0x5D := delimits_of_mem (by decide)
  have hitems := LexedUpTo.intercalate fun text (_ : text ∈ list) => (lexed_quoted text).upTo
  rw [List.map_map]
  exact (hopen.append_upTo hitems).append hend hclose

-- A list of texts is read as it was written.
theorem texts?_of_parse?_compact (list : List String) :
    (Value.parse? (Item.texts list).compact).bind Value.texts? = some list := by
  rw [Value.parse?, (lexed_texts list).ofBytes?, Option.bind_some, ofTokens?_array,
    Option.bind_some]
  exact mapM_text?_escaped list

theorem length_le_length_texts (text : String) :
    text.toList.length + 4 ≤ (Item.texts [text]).compact.length := by
  have hquoted := Quoted.length_le_length_encode text
  simp only [Item.compact, Item.array, List.map_cons, List.map_nil, List.intercalate_singleton,
    List.cons_append, List.length_cons, List.length_append, List.length_nil]
  omega

end Texts

end Rumor.Json
