import Console7800.Database
import Console7800.Proofs.Text.Lines
import Console7800.Proofs.Text.Numerals

/-!
# Keyed lines of a record

A line of a record is a name, an equals sign and a value. The lines that a record need not have are
found by their keys, and a line is searched for every key. That it makes its own setting and no
other (`applyLine_valueLine`) is a matter of spelling: no key stands in another one, and every key
has a character that no value has.
-/

namespace Console7800.Database

/-! ## Values -/

/-- What can stand as the value of a line: a piece of one line, without blanks around it, that
leaves the line's last equals sign in front of it. -/
structure Plain (text : List Char) : Prop where
  noFeed : '\n' ∉ text
  noEquals : '=' ∉ text
  trimmed : Text.trim text = text

/-- The characters of numerals and of `true` and `false` in any letter case. -/
def isValueChar (c : Char) : Bool :=
  c.isDigit || c = '+' || c = '-' || "truefals".toList.contains c.toLower

/-- A flag as it may be written. -/
def WritesFlag (flag : Bool) (text : List Char) : Prop :=
  Text.asciiLower text = (if flag then "true" else "false").toList ∨
    text = [if flag then '1' else '0']

theorem writesFlag_word (flag : Bool) :
    WritesFlag flag (if flag then "true" else "false").toList := by
  cases flag <;> exact .inl (by decide)

theorem toLower_range {c : Char} (hlow : 0x61 ≤ c.toLower.toNat) (hhigh : c.toLower.toNat ≤ 0x7A) :
    0x41 ≤ c.toNat ∧ c.toNat ≤ 0x7A := by
  unfold Char.toLower at hlow hhigh
  split at hlow
  · rename_i hupper
    have h65 : 0x41 ≤ c.toNat := hupper.1
    have h90 : c.toNat ≤ 0x5A := hupper.2
    omega
  · rename_i hupper
    rw [dif_neg hupper] at hhigh
    omega

theorem isValueChar_range {c : Char} (h : isValueChar c) : 0x20 < c.toNat ∧ c.toNat < 0x85 := by
  simp only [isValueChar, Bool.or_eq_true, decide_eq_true_eq, List.contains_iff_mem] at h
  rcases h with ((hdigit | rfl) | rfl) | hletter
  · have hrange : '0' ≤ c ∧ c ≤ '9' := by simpa [Char.isDigit, Char.le_def] using hdigit
    have h48 : 0x30 ≤ c.toNat := hrange.1
    have h57 : c.toNat ≤ 0x39 := hrange.2
    omega
  · decide
  · decide
  · have hlower : "truefals".toList.all (fun d => 0x61 ≤ d.toNat ∧ d.toNat ≤ 0x7A) := by decide
    obtain ⟨hlow, hhigh⟩ := of_decide_eq_true (List.all_eq_true.1 hlower _ hletter)
    have hrange := toLower_range hlow hhigh
    omega

theorem plain_of_isValueChar {text : List Char} (h : ∀ c ∈ text, isValueChar c) : Plain text where
  noFeed hmem := absurd (h _ hmem) (by decide)
  noEquals hmem := absurd (h _ hmem) (by decide)
  trimmed := Text.trim_eq_self fun c hc =>
    have hrange := isValueChar_range (h c hc)
    Text.isBlank_eq_false hrange.1 hrange.2

section

variable {text : List Char}

theorem isValueChar_digits {n : Nat} (h : Text.Digits n text) : ∀ c ∈ text, isValueChar c :=
  fun c hc => by simp [isValueChar, h.isDigit c hc]

theorem isValueChar_numeral {n : Nat} (h : Text.Numeral n text) : ∀ c ∈ text, isValueChar c := by
  cases h with
  | plain h => exact isValueChar_digits h
  | plus h => exact List.forall_mem_cons.2 ⟨by decide, isValueChar_digits h⟩

theorem isValueChar_signedNumeral {n : Int} (h : Text.SignedNumeral n text) :
    ∀ c ∈ text, isValueChar c := by
  cases h with
  | plain h => exact isValueChar_digits h
  | plus h | minus h => exact List.forall_mem_cons.2 ⟨by decide, isValueChar_digits h⟩

theorem plain_numeral {n : Nat} (h : Text.Numeral n text) : Plain text :=
  plain_of_isValueChar (isValueChar_numeral h)

theorem isValueChar_flag {flag : Bool} (h : WritesFlag flag text) :
    ∀ c ∈ text, isValueChar c := by
  rcases h with hlower | rfl
  · intro c hc
    have hletters : (if flag then "true" else "false").toList.all "truefals".toList.contains := by
      cases flag <;> decide
    have hmem : c.toLower ∈ (if flag then "true" else "false").toList :=
      hlower ▸ List.mem_map_of_mem hc
    rw [isValueChar, List.all_eq_true.1 hletters _ hmem, Bool.or_true]
  · exact List.forall_mem_singleton.2 (by cases flag <;> decide)

theorem plain_flag {flag : Bool} (h : WritesFlag flag text) : Plain text :=
  plain_of_isValueChar (isValueChar_flag h)

theorem flag?_of_writes {flag : Bool} (h : WritesFlag flag text) : flag? text = some flag := by
  rcases h with hlower | rfl
  · unfold flag?
    rw [hlower]
    cases flag <;> decide
  · cases flag <;> decide

theorem byte?_of_numeral {byte : UInt8} (h : Text.Numeral byte.toNat text) :
    byte? text = some byte := by
  unfold byte?
  rw [h.unsigned? byte.toNat_lt]
  exact congrArg some UInt8.ofNat_toNat

end

/-! ## Keys -/

/-- The keys of the lines that a record need not have, in the order of `settings`. -/
inductive Key where
  | crosshairX
  | crosshairY
  | hblank
  | dualAnalog
  | pokey450
  | expansion
  | disableBios
  | leftSwitch
  | rightSwitch
  | swapButtons
  deriving DecidableEq

namespace Key

def all : List Key :=
  [crosshairX, crosshairY, hblank, dualAnalog, pokey450, expansion, disableBios, leftSwitch,
    rightSwitch, swapButtons]

theorem mem_all (key : Key) : key ∈ all := by
  cases key <;> decide

theorem nodup_all : all.Nodup := by
  decide

def name : Key → String
  | crosshairX => "crossx"
  | crosshairY => "crossy"
  | hblank => "hblank"
  | dualAnalog => "dualanalog"
  | pokey450 => "pokey450"
  | expansion => "xm"
  | disableBios => "disablebios"
  | leftSwitch => "leftswitch"
  | rightSwitch => "rightswitch"
  | swapButtons => "swapbuttons"

/-- The type of the values for a key, but for the range of its numbers. -/
def Value : Key → Type
  | crosshairX | crosshairY => Int
  | hblank => Nat
  | leftSwitch | rightSwitch => UInt8
  | dualAnalog | pokey450 | expansion | disableBios | swapButtons => Bool

/-- What an entry has for a key. -/
def value? (entry : Entry) : (key : Key) → Option key.Value
  | crosshairX => entry.crosshairX?
  | crosshairY => entry.crosshairY?
  | hblank => entry.hblank?
  | dualAnalog => entry.dualAnalog?
  | pokey450 => entry.pokey450?
  | expansion => entry.expansion?
  | disableBios => entry.disableBios?
  | leftSwitch => entry.leftSwitch?
  | rightSwitch => entry.rightSwitch?
  | swapButtons => entry.swapButtons?

/-- The numbers of 32 bits, with sign or without. -/
def InRange : (key : Key) → key.Value → Prop
  | crosshairX | crosshairY => fun n : Int => -0x80000000 ≤ n ∧ n < 0x80000000
  | hblank => fun n : Nat => n < 0x100000000
  | leftSwitch | rightSwitch | dualAnalog | pokey450 | expansion | disableBios | swapButtons =>
    fun _ => True

/-- The text writes the value. -/
def Writes : (key : Key) → key.Value → List Char → Prop
  | crosshairX | crosshairY => Text.SignedNumeral
  | hblank => Text.Numeral
  | leftSwitch | rightSwitch => fun byte : UInt8 => Text.Numeral byte.toNat
  | dualAnalog | pokey450 | expansion | disableBios | swapButtons => WritesFlag

theorem exists_writes (key : Key) (value : key.Value) : ∃ text, key.Writes value text := by
  cases key with
  | crosshairX | crosshairY => exact Text.SignedNumeral.exists value
  | hblank => exact ⟨_, .plain (.toDigits value)⟩
  | leftSwitch | rightSwitch => exact ⟨_, .plain (.toDigits _)⟩
  | dualAnalog | pokey450 | expansion | disableBios | swapButtons =>
    exact ⟨_, writesFlag_word value⟩

/-- The setting that is found by the key. -/
def setting (key : Key) : Setting := settings.get ⟨key.ctorIdx, by cases key <;> decide⟩

theorem settings_eq : settings = all.map setting := rfl

theorem setting_key (key : Key) : key.setting.key = key.name := by
  cases key <;> rfl

/-- The value of a line of the key. -/
def read? : (key : Key) → List Char → Option key.Value
  | crosshairX | crosshairY => Text.signed? 32
  | hblank => number?
  | leftSwitch | rightSwitch => byte?
  | dualAnalog | pokey450 | expansion | disableBios | swapButtons => flag?

/-- Give an entry a value for a key. -/
def put (entry : Entry) : (key : Key) → key.Value → Entry
  | crosshairX, n => { entry with crosshairX? := some n }
  | crosshairY, n => { entry with crosshairY? := some n }
  | hblank, n => { entry with hblank? := some n }
  | dualAnalog, b => { entry with dualAnalog? := some b }
  | pokey450, b => { entry with pokey450? := some b }
  | expansion, b => { entry with expansion? := some b }
  | disableBios, b => { entry with disableBios? := some b }
  | leftSwitch, n => { entry with leftSwitch? := some n }
  | rightSwitch, n => { entry with rightSwitch? := some n }
  | swapButtons, b => { entry with swapButtons? := some b }

theorem setting_assign (key : Key) (text : List Char) (entry : Entry) :
    key.setting.assign text entry = (key.read? text).map (key.put entry) := by
  cases key <;> rfl

theorem read?_writes {key : Key} {value : key.Value} {text : List Char}
    (h : key.Writes value text) (hrange : key.InRange value) : key.read? text = some value := by
  cases key with
  | crosshairX | crosshairY => exact h.signed? hrange.1 hrange.2
  | hblank => exact h.unsigned? hrange
  | leftSwitch | rightSwitch => exact byte?_of_numeral h
  | dualAnalog | pokey450 | expansion | disableBios | swapButtons => exact flag?_of_writes h

theorem isValueChar_writes {key : Key} {value : key.Value} {text : List Char}
    (h : key.Writes value text) : ∀ c ∈ text, isValueChar c := by
  cases key with
  | crosshairX | crosshairY => exact isValueChar_signedNumeral h
  | hblank | leftSwitch | rightSwitch => exact isValueChar_numeral h
  | dualAnalog | pokey450 | expansion | disableBios | swapButtons => exact isValueChar_flag h

end Key

/-- A field of one of these keys; that of another key is left out. -/
def Key.only {α : Type} (keys : List Key) (key : Key) (field? : Option α) : Option α :=
  if key ∈ keys then field? else none

theorem Key.only_cons {α : Type} (other : Key) (keys : List Key) (key : Key) (field? : Option α) :
    only (other :: keys) key field? = if key = other then field? else only keys key field? := by
  by_cases hkey : key = other
  · rw [if_pos hkey]
    exact if_pos (hkey ▸ List.mem_cons_self)
  · rw [if_neg hkey]
    unfold only
    simp only [List.mem_cons, hkey, false_or]

theorem Key.only_eq_self {α : Type} {keys : List Key} {key : Key} {field? : Option α}
    (h : field? ≠ none → key ∈ keys) : only keys key field? = field? := by
  unfold only
  split
  · rfl
  · rename_i hnot
    exact (Decidable.not_not.1 fun hne => hnot (h hne)).symm

/-- The entry without what it has for other keys than these. -/
def Entry.keep (entry : Entry) (keys : List Key) : Entry :=
  { entry with
    crosshairX? := Key.only keys .crosshairX entry.crosshairX?
    crosshairY? := Key.only keys .crosshairY entry.crosshairY?
    hblank? := Key.only keys .hblank entry.hblank?
    dualAnalog? := Key.only keys .dualAnalog entry.dualAnalog?
    pokey450? := Key.only keys .pokey450 entry.pokey450?
    expansion? := Key.only keys .expansion entry.expansion?
    disableBios? := Key.only keys .disableBios entry.disableBios?
    leftSwitch? := Key.only keys .leftSwitch entry.leftSwitch?
    rightSwitch? := Key.only keys .rightSwitch entry.rightSwitch?
    swapButtons? := Key.only keys .swapButtons entry.swapButtons? }

theorem Entry.keep_eq_self {entry : Entry} {keys : List Key}
    (h : ∀ key : Key, key.value? entry ≠ none → key ∈ keys) : entry.keep keys = entry := by
  cases entry
  simp only [keep, Entry.mk.injEq, true_and]
  exact ⟨Key.only_eq_self (h .crosshairX), Key.only_eq_self (h .crosshairY),
    Key.only_eq_self (h .hblank), Key.only_eq_self (h .dualAnalog),
    Key.only_eq_self (h .pokey450), Key.only_eq_self (h .expansion),
    Key.only_eq_self (h .disableBios), Key.only_eq_self (h .leftSwitch),
    Key.only_eq_self (h .rightSwitch), Key.only_eq_self (h .swapButtons)⟩

theorem Entry.put_keep {entry : Entry} {key : Key} {value : key.Value}
    (h : key.value? entry = some value) (shown : List Key) :
    key.put (entry.keep shown) value = entry.keep (key :: shown) := by
  have hfield := h.symm
  cases key
  all_goals
    simp only [Key.put, keep, Key.only_cons, reduceCtorEq, ↓reduceIte, Entry.mk.injEq, true_and,
      and_true]
    exact hfield

/-! ## Keyed lines -/

/-- A line of a record. -/
def valueLine (name : String) (text : List Char) : List Char := name.toList ++ '=' :: text

theorem valueOf_valueLine (name : String) {text : List Char} (h : Plain text) :
    valueOf (valueLine name text) = text := by
  have hread : ((valueLine name text).reverse.takeWhile (· != '=')).reverse = text := by
    have hne : ∀ c ∈ text.reverse, (c != '=') = true := by
      intro c hc
      exact bne_iff_ne.2 fun heq => h.noEquals (heq ▸ List.mem_reverse.1 hc)
    rw [valueLine, List.reverse_append, List.reverse_cons, List.append_assoc,
      List.takeWhile_append_of_pos hne]
    simp
  rw [valueOf, hread, h.trimmed]

theorem occursIn_iff {word text : List Char} : occursIn word text = true ↔ word <:+: text := by
  induction text with
  | nil => simp [occursIn]
  | cons c text ih =>
    rw [occursIn, Bool.or_eq_true, ih, List.isPrefixOf_iff_prefix, List.infix_cons_iff]

/-- A word without an equals sign stands on one side of it. -/
theorem occursIn_valueLine {word : List Char} (h : '=' ∉ word) {name : String} {text : List Char}
    (hline : occursIn word (valueLine name text) = true) :
    occursIn word name.toList = true ∨ occursIn word text = true := by
  -- A part of the word that reaches past the name starts with the equals sign or is empty.
  have hnothing {rest : List Char} (hsub : rest ⊆ word) (hrest : rest <+: '=' :: text) :
      rest = [] := by
    cases rest with
    | nil => rfl
    | cons c rest =>
      obtain ⟨rfl, -⟩ := List.cons_prefix_cons.1 hrest
      exact absurd (hsub List.mem_cons_self) h
  simp only [occursIn_iff, valueLine, List.infix_append_iff, List.infix_cons_iff] at hline ⊢
  rcases hline with hname | (hword | htext) | ⟨before, rest, rfl, hbefore, hrest⟩
  · exact .inl hname
  · exact .inr (hnothing (List.Subset.refl _) hword ▸ List.nil_infix)
  · exact .inr htext
  · rw [hnothing (List.subset_append_right ..) hrest, List.append_nil]
    exact .inl hbefore.isInfix

namespace Key

theorem noEquals_name (key : Key) : '=' ∉ key.name.toList := by
  cases key <;> decide

/-- No key stands in another one. -/
theorem occursIn_name (key other : Key) :
    occursIn key.name.toList other.name.toList = decide (key = other) := by
  cases key <;> cases other <;> decide

/-- Every key has a character that no value has. -/
theorem not_all_isValueChar (key : Key) : key.name.toList.all isValueChar = false := by
  cases key <;> decide

theorem occursIn_value (key : Key) {text : List Char} (h : ∀ c ∈ text, isValueChar c) :
    occursIn key.name.toList text = false := by
  rw [Bool.eq_false_iff]
  intro hoccurs
  have hall : key.name.toList.all isValueChar :=
    List.all_eq_true.2 fun c hc => h c ((occursIn_iff.1 hoccurs).subset hc)
  rw [key.not_all_isValueChar] at hall
  cases hall

/-- Only the key of a line is found in it. -/
theorem occursIn_valueLine_ne {key other : Key} (hne : other ≠ key) {text : List Char}
    (h : ∀ c ∈ text, isValueChar c) :
    occursIn other.name.toList (valueLine key.name text) = false := by
  rw [Bool.eq_false_iff]
  intro hoccurs
  rcases occursIn_valueLine other.noEquals_name hoccurs with hname | hvalue
  · rw [occursIn_name] at hname
    exact hne (of_decide_eq_true hname)
  · rw [occursIn_value other h] at hvalue
    cases hvalue

theorem occursIn_valueLine_self (key : Key) (text : List Char) :
    occursIn key.name.toList (valueLine key.name text) = true :=
  occursIn_iff.2 (List.prefix_append ..).isInfix

end Key

section

variable {α β ε : Type} {step : β → α → Except ε β}

theorem foldlM_eq_ok {state : β} {items : List α}
    (h : ∀ item ∈ items, step state item = .ok state) : items.foldlM step state = .ok state := by
  induction items with
  | nil => rfl
  | cons item items ih =>
    rw [List.forall_mem_cons] at h
    rw [List.foldlM_cons, h.1]
    exact ih h.2

theorem foldlM_single {state next : β} {before after : List α} {item : α}
    (hbefore : ∀ other ∈ before, step state other = .ok state)
    (hitem : step state item = .ok next) (hafter : ∀ other ∈ after, step next other = .ok next) :
    (before ++ item :: after).foldlM step state = .ok next := by
  rw [List.foldlM_append, foldlM_eq_ok hbefore]
  change List.foldlM step state (item :: after) = _
  rw [List.foldlM_cons, hitem]
  exact foldlM_eq_ok hafter

end

/-- A keyed line makes the setting of its key and no other. -/
theorem applyLine_valueLine {key : Key} {value : key.Value} {text : List Char}
    (h : key.Writes value text) (hrange : key.InRange value) (number : Nat) (entry : Entry) :
    applyLine number (valueLine key.name text) entry = .ok (key.put entry value) := by
  have hchars := Key.isValueChar_writes h
  have hskip (entry : Entry) {other : Key} (hne : other ≠ key) :
      (if occursIn other.setting.key.toList (valueLine key.name text) then
        need number other.setting.key (fun text => other.setting.assign text entry)
          (valueOf (valueLine key.name text))
      else .ok entry) = .ok entry := by
    rw [Key.setting_key, Key.occursIn_valueLine_ne hne hchars]
    rfl
  have hassign : need number key.name (fun text => key.setting.assign text entry)
      (valueOf (valueLine key.name text)) = .ok (key.put entry value) := by
    rw [valueOf_valueLine _ (plain_of_isValueChar hchars), need, key.setting_assign,
      Key.read?_writes h hrange]
    rfl
  -- The search goes through all keys, and the line's own key is among them once.
  obtain ⟨before, after, hall⟩ := List.append_of_mem key.mem_all
  obtain ⟨-, hafter, hbefore⟩ := List.nodup_append.1 (hall ▸ Key.nodup_all)
  unfold applyLine
  rw [Key.settings_eq, List.foldlM_map, hall]
  refine foldlM_single (fun other hmem => hskip entry ?_) ?_ fun other hmem => hskip _ ?_
  · exact hbefore other hmem key List.mem_cons_self
  · rw [Key.setting_key, Key.occursIn_valueLine_self, if_pos rfl, hassign]
  · exact fun heq => (List.nodup_cons.1 hafter).1 (heq ▸ hmem)

/-- The text writes the value that the entry has for the key. -/
def Entry.Shows (entry : Entry) (key : Key) (text : List Char) : Prop :=
  ∃ value, key.value? entry = some value ∧ key.InRange value ∧ key.Writes value text

theorem applyLines_keyed {entry : Entry} {keyed : List (Key × List Char)}
    (h : ∀ field ∈ keyed, entry.Shows field.1 field.2) (number : Nat) (shown : List Key) :
    applyLines number (keyed.map fun field => valueLine field.1.name field.2) (entry.keep shown) =
      .ok (entry.keep ((keyed.map Prod.fst).reverse ++ shown)) := by
  induction keyed generalizing number shown with
  | nil => rfl
  | cons field keyed ih =>
    obtain ⟨⟨value, hvalue, hrange, hwrites⟩, hkeyed⟩ := List.forall_mem_cons.1 h
    rw [List.map_cons, applyLines, applyLine_valueLine hwrites hrange, Entry.put_keep hvalue]
    change applyLines (number + 1) _ (entry.keep (field.1 :: shown)) = _
    rw [ih hkeyed, List.map_cons, List.reverse_cons, List.append_assoc]
    rfl

end Console7800.Database
