import Mathlib.Data.List.Nodup
import Mathlib.Data.String.Basic
import Coredis.Utils

/- `coredis.tokens`: the keyword enumerations `PureToken` and `PrefixToken`, each member a
   name and the bytes of its `b"..."` literal, kept here as the literal's text (Python allows
   only ASCII there). How members compare follows the spec's account of their base class
   `CaseAndEncodingInsensitiveEnum`; letter case is ASCII case. -/
namespace Coredis

/-! ### ASCII case -/

theorem toNat_ofNat_of_lt {n : Nat} (h : n < 0xd800) : (Char.ofNat n).toNat = n := by
  have hv : n.isValidChar := Or.inl h
  simp only [Char.ofNat, hv, dite_true, Char.ofNatAux, Char.toNat]
  rfl

theorem char_toUpper_toLower (c : Char) : c.toLower.toUpper = c.toUpper := by
  unfold Char.toLower Char.toUpper
  by_cases hu : c.toNat ≥ 65 ∧ c.toNat ≤ 90
  · have h32 := toNat_ofNat_of_lt (n := c.toNat + 32) (by omega)
    have hl : ¬ (c.toNat ≥ 97 ∧ c.toNat ≤ 122) := by omega
    simp only [hu, and_self, ite_true, h32, hl, ite_false, Nat.add_sub_cancel, Char.ofNat_toNat,
      show c.toNat + 32 ≥ 97 ∧ c.toNat + 32 ≤ 122 by omega]
  · simp [hu]

theorem char_toUpper_of_not_lower {c : Char} (h : ¬ (97 ≤ c.toNat ∧ c.toNat ≤ 122)) :
    c.toUpper = c := by
  simp only [Char.toUpper, ge_iff_le, h, ite_false]

@[simp] theorem string_toUpper_data (s : String) : s.toUpper.data = s.data.map Char.toUpper := by
  rw [String.toUpper, String.map_eq]

theorem string_toUpper_toLower (s : String) : s.toLower.toUpper = s.toUpper := by
  simp [String.toLower, String.toUpper, String.map_eq, Function.comp_def, char_toUpper_toLower]

def asciiBytes (s : String) : List UInt8 := charBytes s.data

/-- An encoding that reads ASCII bytes as the characters of the same codes, as UTF-8 and
    Latin-1 do. -/
def TextCodec.AsciiCompatible (codec : TextCodec) : Prop :=
  ∀ s : String, (∀ c ∈ s.data, c.toNat < 128) → codec.decode (asciiBytes s) = s

theorem latin1_asciiCompatible : latin1.AsciiCompatible := fun s hs =>
  congrArg String.mk (bytesChars_charBytes fun c hc => lt_trans (hs c hc) (by decide))

/-! ### Members -/

/-- A member of the enumeration whose members `table` lists, by name and canonical value, in
    the order of the class body. -/
structure Token (table : List (String × String)) where
  index : Fin table.length
  deriving DecidableEq

namespace Token

variable {table : List (String × String)}

def name (t : Token table) : String := (table.get t.index).1

def value (t : Token table) : String := (table.get t.index).2

def wire (t : Token table) : List UInt8 := asciiBytes t.value

theorem mem (t : Token table) : (t.name, t.value) ∈ table := List.get_mem _ _ _

def byName? (table : List (String × String)) (n : String) : Option (Token table) :=
  if h : table.findIdx (fun p => p.1 == n) < table.length then some ⟨⟨_, h⟩⟩ else none

theorem name_of_byName? {n : String} {t : Token table} (h : byName? table n = some t) :
    t.name = n := by
  unfold byName? at h
  split_ifs at h with hl
  cases h
  simpa [name] using List.findIdx_getElem (w := hl)

theorem value_injective (h : (table.map Prod.snd).Nodup) :
    Function.Injective (value : Token table → String) := by
  intro t u htu
  have hi := (List.Nodup.get_inj_iff h (i := t.index.cast (by simp))
    (j := u.index.cast (by simp))).mp (by simpa [value] using htu)
  cases t; cases u
  simpa [Fin.ext_iff] using hi

end Token

/-! ### Comparison -/

/-- Modelled from the spec: what a member is compared with, a text, a byte string, or a member
    of either enumeration, given by its canonical value. -/
inductive TokenOperand
  | text (s : String)
  | bytes (b : List UInt8)
  | token (value : String)

/-- Modelled from the spec: an operand's normalized form, decoded under the client's encoding
    and upper-cased. -/
def TokenOperand.normalized (codec : TextCodec) : TokenOperand → String
  | .text s => s.toUpper
  | .bytes b => (codec.decode b).toUpper
  | .token v => v.toUpper

/-- Modelled from the spec: `CaseAndEncodingInsensitiveEnum.__eq__`. A member equals every
    operand whose normalized form is the member's canonical value. -/
def Token.equals {table : List (String × String)} (codec : TextCodec) (t : Token table)
    (x : TokenOperand) : Bool :=
  x.normalized codec == t.value

@[simp] theorem Token.equals_iff {table : List (String × String)} (codec : TextCodec)
    (t : Token table) (x : TokenOperand) :
    t.equals codec x = true ↔ x.normalized codec = t.value := beq_iff_eq

/-- What the spec asks of an enumeration: canonical values in normal form, upper-case ASCII,
    and no two alike (`Enum` would make a member with a repeated value an alias). -/
structure WellFormed (table : List (String × String)) : Prop where
  normal : ∀ p ∈ table, ∀ c ∈ p.2.data, c.toNat < 128 ∧ ¬ (97 ≤ c.toNat ∧ c.toNat ≤ 122)
  distinct : (table.map Prod.snd).Nodup

structure ComparesByValue (codec : TextCodec) (table : List (String × String)) : Prop where
  lower : ∀ t : Token table, t.equals codec (.text t.value.toLower)
  upper : ∀ t : Token table, t.equals codec (.text t.value)
  wire : ∀ t : Token table, t.equals codec (.bytes t.wire)
  member : ∀ t u : Token table, t.equals codec (.token u.value) ↔ t = u
  unique : ∀ (t u : Token table) x, t.equals codec x → u.equals codec x → t = u

section Laws

variable {table : List (String × String)} (h : WellFormed table)

include h

theorem Token.value_toUpper (t : Token table) : t.value.toUpper = t.value :=
  String.ext <| by
    rw [string_toUpper_data]
    exact (List.map_congr_left fun c hc =>
      char_toUpper_of_not_lower (h.normal _ t.mem c hc).2).trans (List.map_id _)

theorem WellFormed.comparesByValue {codec : TextCodec} (hc : codec.AsciiCompatible) :
    ComparesByValue codec table where
  lower t := by simp [TokenOperand.normalized, string_toUpper_toLower, t.value_toUpper h]
  upper t := by simp [TokenOperand.normalized, t.value_toUpper h]
  wire t := by
    simp [TokenOperand.normalized, Token.wire,
      hc _ fun c hc' => (h.normal _ t.mem c hc').1, t.value_toUpper h]
  member t u := by
    simp only [Token.equals_iff, TokenOperand.normalized, u.value_toUpper h]
    exact ⟨fun e => Token.value_injective h.distinct e.symm, fun e => e ▸ rfl⟩
  unique t u x ht hu := Token.value_injective h.distinct <| by
    rw [Token.equals_iff] at ht hu
    rw [← ht, hu]

end Laws

/-- The values' characters read as digits in base 128: distinct codes mean distinct values. -/
def valueCode (s : String) : Nat := s.data.foldl (fun n c => 128 * n + c.toNat) 0

def allDistinct : List Nat → Bool
  | [] => true
  | n :: ns => !ns.contains n && allDistinct ns

theorem nodup_of_allDistinct : ∀ {ns : List Nat}, allDistinct ns = true → ns.Nodup
  | [], _ => List.nodup_nil
  | n :: ns, h => by
    simp [allDistinct] at h
    exact List.nodup_cons.2 ⟨h.1, nodup_of_allDistinct h.2⟩

theorem nodup_values_of_codes {table : List (String × String)}
    (h : allDistinct (table.map fun p => valueCode p.2) = true) : (table.map Prod.snd).Nodup :=
  List.Nodup.of_map valueCode <| by
    simpa [List.map_map, Function.comp_def] using nodup_of_allDistinct h

/-! ### The enumerations -/

def pureTokens : List (String × String) := [
  ("RESET", "RESET"), ("SCHEDULE", "SCHEDULE"), ("BIT", "BIT"), ("BYTE", "BYTE"),
  ("FAIL", "FAIL"), ("SAT", "SAT"), ("WRAP", "WRAP"), ("AND", "AND"), ("NOT", "NOT"),
  ("OR", "OR"), ("XOR", "XOR"), ("LEFT", "LEFT"), ("RIGHT", "RIGHT"), ("MAX", "MAX"),
  ("MIN", "MIN"), ("NO", "NO"), ("YES", "YES"), ("MASTER", "MASTER"), ("NORMAL", "NORMAL"),
  ("PUBSUB", "PUBSUB"), ("REPLICA", "REPLICA"), ("SLAVE", "SLAVE"), ("OFF", "OFF"), ("ON", "ON"),
  ("ALL", "ALL"), ("WRITE", "WRITE"), ("SKIP", "SKIP"), ("BCAST", "BCAST"), ("NOLOOP", "NOLOOP"),
  ("OPTIN", "OPTIN"), ("OPTOUT", "OPTOUT"), ("ERROR", "ERROR"), ("TIMEOUT", "TIMEOUT"),
  ("FORCE", "FORCE"), ("TAKEOVER", "TAKEOVER"), ("HARD", "HARD"), ("SOFT", "SOFT"),
  ("STABLE", "STABLE"), ("REPLACE", "REPLACE"), ("GT", "GT"), ("LT", "LT"), ("NX", "NX"),
  ("XX", "XX"), ("ABORT", "ABORT"), ("ASYNC", "ASYNC"), ("SYNC", "SYNC"),
  ("WITHCODE", "WITHCODE"), ("APPEND", "APPEND"), ("FLUSH", "FLUSH"), ("CHANGE", "CH"),
  ("FT", "FT"), ("KM", "KM"), ("M", "M"), ("MI", "MI"), ("ANY", "ANY"), ("ASC", "ASC"),
  ("DESC", "DESC"), ("WITHCOORD", "WITHCOORD"), ("WITHDIST", "WITHDIST"),
  ("WITHHASH", "WITHHASH"), ("STOREDIST", "STOREDIST"), ("PERSIST", "PERSIST"),
  ("WITHVALUES", "WITHVALUES"), ("IDX", "IDX"), ("LEN", "LEN"), ("WITHMATCHLEN", "WITHMATCHLEN"),
  ("AFTER", "AFTER"), ("BEFORE", "BEFORE"), ("COPY", "COPY"), ("EMPTY_STRING", ""),
  ("ABSTTL", "ABSTTL"), ("GET", "GET"), ("KEEPTTL", "KEEPTTL"), ("NOSAVE", "NOSAVE"),
  ("NOW", "NOW"), ("SAVE", "SAVE"), ("SORTING", "ALPHA"), ("APPROXIMATELY", "~"),
  ("AUTO_ID", "*"), ("EQUAL", "="), ("MAXLEN", "MAXLEN"), ("MINID", "MINID"),
  ("NOMKSTREAM", "NOMKSTREAM"), ("JUSTID", "JUSTID"), ("MKSTREAM", "MKSTREAM"), ("NEW_ID", "$"),
  ("FULL", "FULL"), ("NOACK", "NOACK"), ("INCREMENT", "INCR"), ("WITHSCORES", "WITHSCORES"),
  ("SUM", "SUM"), ("BYLEX", "BYLEX"), ("BYSCORE", "BYSCORE"), ("REV", "REV"),
  ("WITHSCORE", "WITHSCORE"), ("NONSCALING", "NONSCALING"), ("ITEMS", "ITEMS"),
  ("NOCREATE", "NOCREATE"), ("CAPACITY", "CAPACITY"), ("EXPANSION", "EXPANSION"),
  ("FILTERS", "FILTERS"), ("SIZE", "SIZE"), ("WEIGHTS", "WEIGHTS"), ("WITHCOUNT", "WITHCOUNT"),
  ("COMPRESSION", "COMPRESSION"), ("OVERRIDE", "OVERRIDE"), ("BLOCK", "BLOCK"),
  ("COMPRESSED", "COMPRESSED"), ("FIRST", "FIRST"), ("LAST", "LAST"),
  ("UNCOMPRESSED", "UNCOMPRESSED"), ("AVG", "AVG"), ("COUNT", "COUNT"), ("RANGE", "RANGE"),
  ("STD_P", "STD.P"), ("STD_S", "STD.S"), ("TWA", "TWA"), ("VAR_P", "VAR.P"), ("VAR_S", "VAR.S"),
  ("BUCKETTIMESTAMP", "BUCKETTIMESTAMP"), ("EMPTY", "EMPTY"),
  ("FILTER_BY_VALUE", "FILTER_BY_VALUE"), ("GROUPBY", "GROUPBY"),
  ("SELECTED_LABELS", "SELECTED_LABELS"), ("WITHLABELS", "WITHLABELS")]

def prefixTokens : List (String × String) := [
  ("GET", "GET"), ("INCRBY", "INCRBY"), ("OVERFLOW", "OVERFLOW"), ("SET", "SET"),
  ("COUNT", "COUNT"), ("ADDR", "ADDR"), ("IDENTIFIER", "ID"), ("LADDR", "LADDR"),
  ("SKIPME", "SKIPME"), ("TYPE", "TYPE"), ("USER", "USER"), ("LIB_NAME", "LIB-NAME"),
  ("LIB_VER", "LIB-VER"), ("PREFIX", "PREFIX"), ("REDIRECT", "REDIRECT"),
  ("IMPORTING", "IMPORTING"), ("MIGRATING", "MIGRATING"), ("NODE", "NODE"), ("ACLCAT", "ACLCAT"),
  ("FILTERBY", "FILTERBY"), ("MODULE", "MODULE"), ("PATTERN", "PATTERN"), ("DB", "DB"),
  ("TIMEOUT", "TIMEOUT"), ("TO", "TO"), ("LIBRARYNAME", "LIBRARYNAME"), ("STORE", "STORE"),
  ("STOREDIST", "STOREDIST"), ("BYBOX", "BYBOX"), ("BYRADIUS", "BYRADIUS"),
  ("FROMLONLAT", "FROMLONLAT"), ("FROMMEMBER", "FROMMEMBER"), ("EX", "EX"), ("EXAT", "EXAT"),
  ("PX", "PX"), ("PXAT", "PXAT"), ("AUTH", "AUTH"), ("SETNAME", "SETNAME"), ("MATCH", "MATCH"),
  ("MINMATCHLEN", "MINMATCHLEN"), ("VERSION", "VERSION"), ("MAXLEN", "MAXLEN"), ("RANK", "RANK"),
  ("SAMPLES", "SAMPLES"), ("AUTH2", "AUTH2"), ("KEYS", "KEYS"), ("ARGS", "ARGS"),
  ("CONFIG", "CONFIG"), ("FREQ", "FREQ"), ("IDLETIME", "IDLETIME"), ("LIMIT", "LIMIT"),
  ("BY", "BY"), ("IDLE", "IDLE"), ("LASTID", "LASTID"), ("RETRYCOUNT", "RETRYCOUNT"),
  ("TIME", "TIME"), ("ENTRIESREAD", "ENTRIESREAD"), ("BLOCK", "BLOCK"), ("STREAMS", "STREAMS"),
  ("GROUP", "GROUP"), ("ENTRIESADDED", "ENTRIESADDED"), ("MAXDELETEDID", "MAXDELETEDID"),
  ("AGGREGATE", "AGGREGATE"), ("WEIGHTS", "WEIGHTS"), ("INDENT", "INDENT"),
  ("NEWLINE", "NEWLINE"), ("SPACE", "SPACE"), ("EXPANSION", "EXPANSION"),
  ("CAPACITY", "CAPACITY"), ("ERROR", "ERROR"), ("BUCKETSIZE", "BUCKETSIZE"),
  ("MAXITERATIONS", "MAXITERATIONS"), ("COMPRESSION", "COMPRESSION"),
  ("CHUNK_SIZE", "CHUNK_SIZE"), ("DUPLICATE_POLICY", "DUPLICATE_POLICY"),
  ("ENCODING", "ENCODING"), ("LABELS", "LABELS"), ("RETENTION", "RETENTION"),
  ("ON_DUPLICATE", "ON_DUPLICATE"), ("TIMESTAMP", "TIMESTAMP"), ("AGGREGATION", "AGGREGATION"),
  ("ALIGN", "ALIGN"), ("FILTER_BY_TS", "FILTER_BY_TS"), ("FILTER", "FILTER")]

abbrev PureToken := Token pureTokens

abbrev PrefixToken := Token prefixTokens

set_option maxRecDepth 2000 in
theorem pureTokens_wellFormed : WellFormed pureTokens :=
  ⟨by decide, nodup_values_of_codes (by decide)⟩

set_option maxRecDepth 2000 in
theorem prefixTokens_wellFormed : WellFormed prefixTokens :=
  ⟨by decide, nodup_values_of_codes (by decide)⟩

set_option maxRecDepth 2000 in
example : (Token.byName? prefixTokens "MAXLEN").isSome ∧
    ∀ t ∈ Token.byName? prefixTokens "MAXLEN",
      t.equals latin1 (.text "maxlen") ∧ t.equals latin1 (.text "MaxLen") ∧
        t.equals latin1 (.bytes [77, 65, 88, 76, 69, 78]) ∧
        t.equals latin1 (.text "MAXLENX") = false := by
  simp only [Token.equals, TokenOperand.normalized, beq_iff_eq, beq_eq_false_iff_ne, ne_eq,
    String.ext_iff, string_toUpper_data]
  decide

end Coredis
