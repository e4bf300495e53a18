import Rumor.Config.Text
import Rumor.Proofs.Files
import Rumor.Proofs.Json.Members

-- A configuration that was saved is loaded as it was, whatever it holds.
namespace Rumor.Config

open Json

section Checks

variable {c : Config}

theorem ite_some_eq_none {p : Prop} [Decidable p] {α : Type} {a : α} {rest : Option α} :
    (if p then some a else rest) = none ↔ ¬p ∧ rest = none := by
  split <;> simp_all

-- Every check is of one value alone, and none is of how large a queue or a period is.
theorem fault?_eq_none_iff : c.fault? = none ↔
    c.peerAddress ≠ "" ∧ c.apiAddress ≠ "" ∧ hasScheme c.registryUrl = true ∧
    c.difficulty.toNat ≤ Difficulty.max ∧
      c.fanout ≠ 0 ∧ c.degree ≠ 0 ∧ c.cacheSize ≠ 0 ∧ 1 ≤ c.joinTtl ∧
      (c.listSeconds ≠ 0 ∧ c.heartbeatSeconds ≠ 0) ∧ c.refreshSeconds ≠ some 0 ∧ c.readSeconds ≠ 0 ∧
      c.announceQueue ≠ 0 ∧ c.noteQueue ≠ 0 := by
  simp only [fault?, ite_some_eq_none, not_or, Nat.not_lt, Int32.not_lt, Bool.not_eq_true',
    Bool.not_eq_false, and_true, ne_eq]

theorem pos_of_ne_zero {n : UInt64} (h : n ≠ 0) : 1 ≤ n.toNat :=
  Nat.pos_of_ne_zero fun hzero => h (UInt64.toNat_inj.mp hzero)

-- An engine can be set up with what is valid, and every bound of it admits something.
theorem settings_of_valid (h : c.fault? = none) :
    ∃ settings, c.settings = .ok settings ∧ 1 ≤ settings.fanout ∧ 1 ≤ settings.degree ∧
      1 ≤ settings.cacheSize ∧ 1 ≤ settings.joinTtl := by
  obtain ⟨_, _, _, hdifficulty, hfanout, hdegree, hcache, httl, _⟩ := fault?_eq_none_iff.mp h
  have hmax : c.difficulty.toNat ≤ 8 := hdifficulty
  have hzeros : Difficulty.ofZeros c.difficulty.toNat = .ok ⟨c.difficulty.toNat, hmax⟩ := by
    rw [Difficulty.ofZeros, Difficulty.ofZeros?, dif_pos hmax]
  have hsettings :
      c.settings = .ok ⟨c.fanout.toNat, c.degree.toNat, c.cacheSize.toNat, ⟨_, hmax⟩,
        c.joinTtl⟩ := by
    rw [settings, hzeros]
  exact ⟨_, hsettings, pos_of_ne_zero hfanout, pos_of_ne_zero hdegree, pos_of_ne_zero hcache, httl⟩

end Checks

section Values

theorem naturalUpTo_integer {n max : Nat} (h : n ≤ max) :
    (Item.integer n).value.naturalUpTo max = some n := by
  rw [Value.naturalUpTo, Item.value, integer?_ofInt]
  exact if_pos h

theorem word?_integer (n : UInt64) : word? (Item.integer n.toNat).value = some n := by
  rw [word?, naturalUpTo_integer (Nat.le_sub_one_of_lt n.toNat_lt_size), Option.map_some,
    UInt64.ofNat_toNat]

theorem octet?_integer (n : UInt8) : octet? (Item.integer n.toNat).value = some n := by
  rw [octet?, naturalUpTo_integer (Nat.le_of_lt_succ n.toNat_lt), Option.map_some,
    UInt8.ofNat_toNat]

theorem int32?_integer (n : Int32) : int32? (Item.integer n.toInt).value = some n := by
  have hrange : Int32.minValue.toInt ≤ n.toInt ∧ n.toInt ≤ Int32.maxValue.toInt :=
    ⟨n.minValue_le_toInt, n.toInt_le⟩
  rw [int32?, Item.value, integer?_ofInt]
  dsimp only
  rw [if_pos hrange, Int32.ofInt_toInt]

theorem text?_text (s : String) : (Item.text s).value.text? = some s :=
  Quoted.decode_escaped s

-- Nothing is written for what is absent, so no number is taken for it.
theorem orNull_word? (n : Option UInt64) :
    Value.orNull word? ((n.map fun n => Item.integer n.toNat).getD .null).value = some n := by
  cases n with
  | none => rfl
  | some n => exact congrArg (Option.map some) (word?_integer n)

end Values

-- Each name stands once, so each value is found.
theorem members?_render (c : Config) :
    (Value.parse? c.render).bind (Value.members? names) =
      some (c.items.map fun item => some item.value) := by
  have hnodup : names.Nodup := by decide
  rw [render, Members.parse?_pretty, Option.bind_some]
  exact Members.members?_written (names.zip c.items) hnodup

theorem read?_render (c : Config) : read? c.render = some c := by
  rw [read?, members?_render, Option.bind_some]
  simp [items, ofMembers?, Value.readOr, word?_integer, octet?_integer, int32?_integer, text?_text,
    orNull_word?]

theorem parse_render (c : Config) : parse c.render = c.check := by
  rw [parse, read?_render]

theorem ofFile_render (shown : String) (c : Config) : ofFile shown (.ok c.render) = c.check := by
  obtain ⟨text, htext⟩ : Utf8.IsText c.render := Members.isText_pretty _
  have hdecode : Utf8.decode c.render = .ok text := by rw [htext, Utf8.decode_encode]
  simp only [ofFile, hdecode, parse_render]

theorem check_eq_ok {c d : Config} (h : c.check = .ok d) : c.fault? = none ∧ d = c := by
  unfold check at h
  split at h
  · cases h
  · rename_i hvalid
    exact ⟨hvalid, (Except.ok.inj h).symm⟩

theorem check_of_parse {bytes : Bytes} {c : Config} (h : parse bytes = .ok c) :
    c.check = .ok c := by
  unfold parse at h
  split at h
  · cases h
  · obtain ⟨_, rfl⟩ := check_eq_ok h
    exact h

-- What was written is judged as what it was written for. Where something is kept of it, it
-- is loaded as it was saved; a sink leaves an empty text, which is no configuration. What
-- is read from any text is valid, and an engine can be set up with it.
theorem saved_loads_back (c : Config) :
    parse c.render = c.check ∧
      (∀ fs path fs', save fs path c = (none, fs') → ∀ shown,
        load fs' path shown = if fs'.swallows path then .error .json else c.check) ∧
      ∀ bytes d, parse bytes = .ok d → d.check = .ok d ∧ ∃ settings, d.settings = .ok settings := by
  refine ⟨parse_render c, fun fs path fs' hsave shown => ?_, fun bytes d hparse => ?_⟩
  · rw [load, Files.read_of_save hsave]
    split
    · rfl
    · exact ofFile_render shown c
  · have hcheck := check_of_parse hparse
    obtain ⟨settings, hsettings, _⟩ := settings_of_valid (check_eq_ok hcheck).1
    exact ⟨hcheck, settings, hsettings⟩

-- Addresses that need escapes, or more than a byte for a character, and the greatest numbers.
def awkward : Config where
  peerAddress := "\"\\\x00\n\x1f"
  apiAddress := "\x7fé€😀"
  registryUrl := "http://\",\n"
  difficulty := 8
  cacheSize := 18446744073709551615
  joinTtl := 2147483647
  refreshSeconds := some 18446744073709551615

theorem awkward_loads_back :
    parse awkward.render = .ok awkward ∧
      (∃ fs, save (.within ["home"]) "new/node.json" awkward = (none, fs) ∧
        load fs "new/node.json" "new/node.json" = .ok awkward) ∧
      parse (render { awkward with joinTtl := -2147483648, refreshSeconds := none }) =
        .error .joinTtl := by
  obtain ⟨hparse, hload, _⟩ := saved_loads_back awkward
  have hsave : save (.within ["home"]) "new/node.json" awkward =
      (none, ⟨["home"], [["home", "new"]], [], [(["home", "new", "node.json"], awkward.render)]⟩) :=
    rfl
  refine ⟨hparse.trans rfl, ⟨_, hsave, ?_⟩, ?_⟩
  · exact (hload _ _ _ hsave "new/node.json").trans rfl
  · exact (saved_loads_back { awkward with joinTtl := -2147483648, refreshSeconds := none }).1.trans rfl

end Rumor.Config
