import DocViews.Proofs.Sql.Tokens
import DocViews.Proofs.Text.Cut
import DocViews.Proofs.View.Projection

/-!
# What a JSON view says about keys

A JSON view names keys in three places: in the path of its elements, which stands in a literal, in
the extraction of each column, which is SQL, and in the path of each column from the root of a
document. Keys are quoted in different ways in these places, and they may look like any part of a
path. Each text can nevertheless be read back by the rules of SQL and of JSON paths alone, and what
is read are the names that it was written from.
-/

namespace DocViews

open Sql (Token tokens)

/-! ## Reading JSON paths -/

/-- A step of a JSON path. -/
inductive JsonStep where
  | key (name : String)
  /-- To every element of a list. -/
  | elements
  deriving DecidableEq, Repr

/-- Puts a character in front of the key that was read. -/
def withChar (c : Char) (read : Option (List Char × List Char)) : Option (List Char × List Char) :=
  read.map fun (key, rest) => (c :: key, rest)

/-- Reads a key behind its first quote. A quote or a backslash behind a backslash is meant as it is;
    no other escapes are read. -/
def takeQuotedKey : List Char → Option (List Char × List Char)
  | [] => none
  | '\x22' :: cs => some ([], cs)
  | '\\' :: '\x22' :: cs => withChar '\x22' (takeQuotedKey cs)
  | '\\' :: '\\' :: cs => withChar '\\' (takeQuotedKey cs)
  | c :: cs => if c = '\\' then none else withChar c (takeQuotedKey cs)

/-- Reads a key, in quotes or as an identifier. -/
def takeKey : List Char → Option (List Char × List Char)
  | [] => none
  | c :: cs =>
    if c = '\x22' then takeQuotedKey cs
    else if isKeyStart c then some (c :: cs.takeWhile isKeyPart, cs.dropWhile isKeyPart)
    else none

theorem withChar_eq_some {c : Char} {read : Option (List Char × List Char)}
    {key rest : List Char} (h : withChar c read = some (key, rest)) :
    ∃ key', read = some (key', rest) := by
  obtain ⟨⟨key', rest'⟩, hread, heq⟩ := Option.map_eq_some_iff.1 h
  cases heq
  exact ⟨key', hread⟩

theorem takeQuotedKey_length {cs key rest : List Char} (h : takeQuotedKey cs = some (key, rest)) :
    rest.length < cs.length := by
  fun_induction takeQuotedKey cs generalizing key with
  | case1 => simp at h
  | case2 cs =>
    cases h
    exact Nat.lt_succ_self _
  | case3 cs ih =>
    obtain ⟨_, hread⟩ := withChar_eq_some h
    exact Nat.lt_add_right 2 (ih hread)
  | case4 cs ih =>
    obtain ⟨_, hread⟩ := withChar_eq_some h
    exact Nat.lt_add_right 2 (ih hread)
  | case5 => simp at h
  | case6 c cs _ _ _ _ ih =>
    obtain ⟨_, hread⟩ := withChar_eq_some h
    exact Nat.lt_succ_of_lt (ih hread)

theorem takeKey_length {cs key rest : List Char} (h : takeKey cs = some (key, rest)) :
    rest.length < cs.length := by
  cases cs with
  | nil => simp [takeKey] at h
  | cons c cs =>
    rw [takeKey] at h
    split at h
    · exact Nat.lt_succ_of_lt (takeQuotedKey_length h)
    · split at h
      · cases h
        exact Nat.lt_succ_of_le (List.dropWhile_sublist _).length_le
      · simp at h

/-- Reads steps to the end of a path. -/
def readSteps : List Char → Option (List JsonStep)
  | [] => some []
  | '.' :: cs =>
    match h : takeKey cs with
    | none => none
    | some (key, rest) =>
      have : rest.length < cs.length := takeKey_length h
      (readSteps rest).map (.key (String.ofList key) :: ·)
  | '[' :: '*' :: ']' :: cs => (readSteps cs).map (.elements :: ·)
  | _ => none
termination_by cs => cs.length

/-- Reads a path from the root of a document. -/
def readJsonPath (path : String) : Option (List JsonStep) :=
  match path.toList with
  | '$' :: cs => readSteps cs
  | _ => none

/-! ## Keys -/

theorem takeQuotedKey_escapeKey (key rest : List Char) :
    takeQuotedKey (escapeKey key ++ '\x22' :: rest) = some (key, rest) := by
  induction key with
  | nil => simp [escapeKey, takeQuotedKey]
  | cons c key ih =>
    by_cases hc : c = '\x22' ∨ c = '\\'
    · -- The backslash in front keeps the character from ending the key or escaping another.
      rcases hc with rfl | rfl
      · simp [escapeKey, takeQuotedKey, withChar, ih]
      · simp [escapeKey, takeQuotedKey, withChar, ih]
    · obtain ⟨hquote, hescape⟩ := not_or.1 hc
      simp [escapeKey, hquote, hescape, takeQuotedKey, withChar, ih]

/-- A key is read as it was meant, if what follows cannot belong to it. -/
theorem takeKey_jsonKey (key : String) {rest : List Char}
    (hrest : ∀ c, rest.head? = some c → isKeyPart c = false) :
    takeKey ((jsonKey key).toList ++ rest) = some (key.toList, rest) := by
  unfold jsonKey
  split
  · rename_i hplain
    cases hkey : key.toList with
    | nil => simp [hkey, isPlainKey] at hplain
    | cons c cs =>
      simp only [hkey, isPlainKey, Bool.and_eq_true, List.all_eq_true] at hplain
      have hquote : c ≠ '\x22' := by
        rintro rfl
        simp [isKeyStart] at hplain
      obtain ⟨htake, hdrop⟩ := span_eq_iff.2 ⟨rfl, hplain.2, hrest⟩
      simp [takeKey, hquote, hplain.1, htake, hdrop]
  · simp [takeKey, takeQuotedKey_escapeKey]

theorem readSteps_key (key : String) {rest : List Char}
    (hrest : ∀ c, rest.head? = some c → isKeyPart c = false) :
    readSteps ('.' :: ((jsonKey key).toList ++ rest)) = (readSteps rest).map (.key key :: ·) := by
  have hkey := takeKey_jsonKey key hrest
  rw [readSteps]
  split
  · rename_i hnone
    rw [hkey] at hnone
    cases hnone
  · rename_i hsome
    rw [hkey] at hsome
    cases hsome
    rw [String.ofList_toList]

/-- The characters of keys as steps of a path. -/
def stepChars (names : List String) : List Char :=
  names.flatMap fun key => '.' :: (jsonKey key).toList

/-- Keys are read one by one up to what cannot belong to a key. -/
theorem readSteps_stepChars (names : List String) {rest : List Char}
    (hrest : ∀ c, rest.head? = some c → isKeyPart c = false) :
    readSteps (stepChars names ++ rest) = (readSteps rest).map (names.map .key ++ ·) := by
  induction names with
  | nil => simp [stepChars]
  | cons key names ih =>
    -- Behind a key stands the dot of the next one, or else what follows them all.
    have hnext : ∀ c, (stepChars names ++ rest).head? = some c → isKeyPart c = false := by
      intro c hc
      cases names with
      | nil => exact hrest c hc
      | cons next names =>
        cases hc
        decide
    have hsteps : stepChars (key :: names) ++ rest =
        '.' :: ((jsonKey key).toList ++ (stepChars names ++ rest)) := by simp [stepChars]
    rw [hsteps, readSteps_key key hnext, ih, Option.map_map]
    rfl

theorem jsonSteps_toList (start : String) (p : Path) :
    (jsonSteps start p).toList = start.toList ++ stepChars p.names := by
  simp [jsonSteps, Path.chained, stepChars, Path.names, List.flatMap_map, Segment.render]

/-! ## Metadata paths and root paths -/

/-- The keys of a path without wildcards. -/
def keysOf (steps : List JsonStep) : Option (List String) :=
  steps.mapM fun
    | .key name => some name
    | .elements => none

/-- The keys up to each wildcard. There must be one at the end. -/
def rootsOf : List JsonStep → Option (List (List String))
  | [] => some []
  | .elements :: steps => (rootsOf steps).map ([] :: ·)
  | .key name :: steps => do
    let root :: roots ← rootsOf steps | none
    return (name :: root) :: roots

theorem keysOf_map_key (names : List String) : keysOf (names.map .key) = some names := by
  induction names with
  | nil => rfl
  | cons name names ih =>
    unfold keysOf at ih ⊢
    rw [List.map_cons, List.mapM_cons, ih]
    rfl

theorem rootsOf_append (names : List String) (steps : List JsonStep) :
    rootsOf (names.map .key ++ .elements :: steps) = (rootsOf steps).map (names :: ·) := by
  induction names with
  | nil => rfl
  | cons name names ih =>
    rw [List.map_cons, List.cons_append, rootsOf, ih]
    cases rootsOf steps <;> rfl

/-- The steps of a group's roots, a wildcard behind each. -/
def rootSteps (roots : List Path) : List JsonStep :=
  roots.flatMap fun root => root.names.map .key ++ [.elements]

theorem rootsOf_rootSteps (roots : List Path) :
    rootsOf (rootSteps roots) = some (roots.map Path.names) := by
  induction roots with
  | nil => rfl
  | cons root roots ih =>
    rw [rootSteps, List.flatMap_cons, List.append_assoc, List.singleton_append, rootsOf_append,
      ← rootSteps, ih]
    rfl

theorem jsonRoot_toList (roots : List Path) :
    (jsonRoot roots).toList =
      '$' :: roots.flatMap fun root => stepChars root.names ++ ['[', '*', ']'] := by
  simp [jsonRoot, jsonSteps_toList, List.flatMap_map]

/-- The path of the elements is read as the steps of the roots. -/
theorem readJsonPath_jsonRoot (roots : List Path) :
    readJsonPath (jsonRoot roots) = some (rootSteps roots) := by
  rw [readJsonPath, jsonRoot_toList]
  induction roots with
  | nil => simp [readSteps, rootSteps]
  | cons root roots ih =>
    simp only at ih ⊢
    rw [List.flatMap_cons, List.append_assoc, readSteps_stepChars _ (by simp [isKeyPart])]
    simp [readSteps, ih, rootSteps]

/-- The path of a column is read as its keys. -/
theorem readJsonPath_jsonSteps (p : Path) :
    readJsonPath (jsonSteps "$" p) = some (p.names.map .key) := by
  have hend : ∀ c, ([] : List Char).head? = some c → isKeyPart c = false := by simp
  have hsteps := readSteps_stepChars p.names hend
  rw [readJsonPath, jsonSteps_toList]
  simpa [readSteps] using hsteps

/-! ## Texts of a statement -/

/-- Reads the literal of a path with its wildcards: the keys of each root. -/
def readRoots (text : String) : Option (List (List String)) :=
  match tokens text with
  | some [.quoted .literal path] => (readJsonPath path).bind rootsOf
  | _ => none

/-- Reads the path of a column from the root of a document: its keys. -/
def readKeys (path : String) : Option (List String) := (readJsonPath path).bind keysOf

/-- The keys of an extraction behind the value that it starts from. -/
def extractionKeys : List Token → Option (List String)
  | [.symbol '-', .symbol '>', .symbol '>', .word "0"] => some []
  | .symbol '-' :: .symbol '>' :: .quoted .literal key :: ts => (extractionKeys ts).map (key :: ·)
  | _ => none

/-- Reads an extraction: its keys. -/
def readExtraction (text : String) : Option (List String) :=
  match tokens text with
  | some (.word "EXPLODED" :: .symbol '.' :: .word "VALUE" :: ts) => extractionKeys ts
  | _ => none

theorem readRoots_jsonRoot (roots : List Path) :
    readRoots (Sql.literal (jsonRoot roots)) = some (roots.map Path.names) := by
  simp only [readRoots, Sql.tokens_literal, readJsonPath_jsonRoot, Option.bind_some,
    rootsOf_rootSteps]

theorem readKeys_jsonSteps (p : Path) : readKeys (jsonSteps "$" p) = some p.names := by
  rw [readKeys, readJsonPath_jsonSteps, Option.bind_some, keysOf_map_key]

/-- An arrow is two symbols, also where it stands right behind a literal. -/
theorem tokens_append_arrow {a : String} {ts : List Token} (ha : tokens a = some ts) (b : String) :
    tokens (a ++ "->" ++ b) = (tokens b).map (ts ++ [.symbol '-', .symbol '>'] ++ ·) := by
  have hdash := Sql.tokens_append_separator (c := '-') ha rfl (">" ++ b)
  have hangle := Sql.tokens_append_separator (a := "") (c := '>') rfl rfl b
  have harrow : a ++ "->" ++ b = a ++ String.singleton '-' ++ (">" ++ b) := by
    have hsplit : "->" = String.singleton '-' ++ ">" := rfl
    rw [hsplit]
    simp only [String.append_assoc]
  have hstart : String.singleton '>' = ">" := rfl
  rw [String.empty_append, hstart] at hangle
  rw [harrow, hdash, hangle, Option.map_map]
  refine congrArg (Option.map · (tokens b)) (funext fun us => ?_)
  have hsymbols : (Sql.Place.start '-').1 ++ (Sql.Place.start '>').1 =
      [.symbol '-', .symbol '>'] := rfl
  rw [← hsymbols]
  simp

/-- The tokens of keys behind arrows. -/
def arrowTokens (keys : List String) : List Token :=
  keys.flatMap fun key => [.symbol '-', .symbol '>', .quoted .literal key]

/-- The tokens that read a value as text. -/
def textTokens : List Token := [.symbol '-', .symbol '>', .symbol '>', .word "0"]

theorem tokens_append_arrows (keys : List String) {a : String} {ts : List Token}
    (ha : tokens a = some ts) :
    tokens (a ++ String.join (keys.map fun key => "->" ++ Sql.literal key) ++ "->>0") =
      some (ts ++ arrowTokens keys ++ textTokens) := by
  -- By induction on the keys, with what stands before them read already.
  induction keys generalizing a ts with
  | nil =>
    have hend : "->>0" = "->" ++ ">0" := rfl
    have hzero : tokens ">0" = some [.symbol '>', .word "0"] := rfl
    rw [List.map_nil, String.join_nil, String.append_empty, hend, ← String.append_assoc,
      tokens_append_arrow ha, hzero]
    simp [arrowTokens, textTokens]
  | cons key keys ih =>
    have hkey : tokens (a ++ "->" ++ Sql.literal key) =
        some (ts ++ arrowTokens [key]) := by
      rw [tokens_append_arrow ha, Sql.tokens_literal]
      simp [arrowTokens]
    have hassoc : ∀ keysText : String, a ++ ("->" ++ Sql.literal key ++ keysText) ++ "->>0" =
        a ++ "->" ++ Sql.literal key ++ keysText ++ "->>0" := by
      intro keysText
      simp only [String.append_assoc]
    rw [List.map_cons, String.join_cons, hassoc, ih hkey]
    simp [arrowTokens]

theorem tokens_extraction (c : Sql.JsonColumn) :
    tokens c.extraction =
      some ([.word "EXPLODED", .symbol '.', .word "VALUE"] ++ arrowTokens c.keys ++ textTokens) :=
  tokens_append_arrows c.keys rfl

theorem extractionKeys_arrowTokens (keys : List String) :
    extractionKeys (arrowTokens keys ++ textTokens) = some keys := by
  induction keys with
  | nil => rfl
  | cons key keys ih =>
    rw [arrowTokens, List.flatMap_cons, List.append_assoc, ← arrowTokens]
    simp [extractionKeys, ih]

theorem readExtraction_extraction (c : Sql.JsonColumn) :
    readExtraction c.extraction = some c.keys := by
  rw [readExtraction, tokens_extraction]
  exact extractionKeys_arrowTokens c.keys

/-! ## JSON views -/

theorem Path.names_append (p q : Path) : Path.names (p ++ q) = p.names ++ q.names :=
  List.map_append

/-- Everything that a JSON view says about keys can be read back from its text. So properties with
    different keys never share an extraction or a path. -/
theorem json_keys_read_back (types : TypeNames) (v : ViewPlan) :
    ∃ q : Sql.JsonProjection, (jsonProjection types v).query = .json q ∧
      q.render = "SELECT " ++ Sql.commaSeparated (v.direct ++ q.columns.map fun c =>
          "CAST(" ++ c.extraction ++ " AS " ++ c.sqlType ++ ") AS " ++ c.name)
        ++ " FROM " ++ v.table ++ ", JSONB_PATH_QUERY(PAYLOAD, " ++ Sql.literal q.root
        ++ ") AS EXPLODED(VALUE)" ∧
      readRoots (Sql.literal q.root) = some (v.roots.map Path.names) ∧
      q.columns.map (fun c => readExtraction c.extraction) =
        v.properties.map (fun c => some c.path.names) ∧
      (jsonProjection types v).mappings.map (fun m => readKeys m.1) =
        v.properties.map (fun c => some (v.rootPath.names ++ c.path.names)) ∧
      ∀ (i j : Nat) c d, v.properties[i]? = some c → v.properties[j]? = some d →
        c.path.names ≠ d.path.names →
        (q.columns[i]?.map (·.extraction) ≠ q.columns[j]?.map (·.extraction)) ∧
        (jsonProjection types v).mappings[i]?.map (·.1) ≠
          (jsonProjection types v).mappings[j]?.map (·.1) := by
  refine ⟨_, rfl, jsonProjection_render _, readRoots_jsonRoot v.roots, ?_, ?_, ?_⟩
  · rw [List.map_map]
    apply List.map_congr_left
    intro c _
    exact readExtraction_extraction _
  · rw [jsonProjection, List.map_map]
    apply List.map_congr_left
    intro c _
    rw [Function.comp_apply, readKeys_jsonSteps, Path.names_append]
  · intro i j c d hc hd hnames
    simp only [jsonProjection, List.getElem?_map, hc, hd, Option.map_some, ne_eq,
      Option.some.injEq]
    -- Equal texts would be read as the same keys.
    constructor
    · intro hextraction
      have hread := congrArg readExtraction hextraction
      rw [readExtraction_extraction, readExtraction_extraction] at hread
      exact hnames (Option.some.inj hread)
    · intro hpath
      have hread := congrArg readKeys hpath
      rw [readKeys_jsonSteps, readKeys_jsonSteps, Option.some.injEq, Path.names_append,
        Path.names_append] at hread
      exact hnames (List.append_cancel_left hread)

/-- A view with a dot in one key and a wildcard in another. -/
def dottedView : ViewPlan where
  name := "DOC_X"
  table := "DOC_RAW"
  direct := ["ID"]
  roots := [[⟨"x[*]", none⟩]]
  properties := [⟨[⟨"a.b", none⟩], .string, "A"⟩, ⟨[⟨"a", none⟩, ⟨"b", none⟩], .string, "B"⟩]

/-- The key with the dot is not taken for two keys, and the wildcard belongs to its key. -/
theorem dottedView_read_back :
    ∃ q : Sql.JsonProjection, (jsonProjection (postgresTypes true) dottedView).query = .json q ∧
      readRoots (Sql.literal q.root) = some [["x[*]"]] ∧
      q.columns[0]?.map (·.extraction) ≠ q.columns[1]?.map (·.extraction) := by
  obtain ⟨q, hq, _, hroots, _, _, hapart⟩ := json_keys_read_back (postgresTypes true) dottedView
  exact ⟨q, hq, hroots, (hapart 0 1 _ _ rfl rfl (by decide)).1⟩

end DocViews
