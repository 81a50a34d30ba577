import ResourceRouter.Proofs.Address.Names
import ResourceRouter.Proofs.Address.Spelled
import ResourceRouter.Proofs.Url.Absolute

set_option autoImplicit false

/-!
The forms of an href. A path of plain names leads to one address, with the root or without, behind
an origin or behind slashes, and whatever query or fragment follows it.
-/

namespace ResourceRouter.Locator

def slashes (count : Nat) : List Char := List.replicate count '/'

/-- What stands before the names of a path: slashes, or an origin with a slash after it. -/
inductive Opening where
  | relative (count : Nat)
  | absolute (origin : Url.Origin)

def Opening.text : Opening → List Char
  | .relative count => slashes count
  | .absolute origin => origin.text ++ ['/']

/-- Behind an origin, names that are dots do not stay in the path. -/
def Opening.Keeps : Opening → List String → Prop
  | .relative _, _ => True
  | .absolute _, names => ∀ name ∈ names, name ≠ "." ∧ name ≠ ".."

/-- The names that lead to the segments below a root: the root may be left out before a path that
does not start with its text. -/
inductive LeadsTo (root segments : List String) : List String → Prop
  | rooted : LeadsTo root segments (root ++ segments)
  | bare (apart : ∀ rest, joined segments = joined root ++ rest → rest.head?.all isSlash = false) :
      LeadsTo root segments segments

section Slashes

theorem eq_slash_of_mem {count : Nat} {c : Char} (inside : c ∈ slashes count) : c = '/' :=
  List.eq_of_mem_replicate inside

theorem head?_slashes (count : Nat) : (slashes count).head?.all isSlash := by
  cases count <;> rfl

theorem pieces_slashes (count : Nat) : pieces (slashes count) = [] := by
  induction count with
  | zero => rfl
  | succ count ih =>
      change pieces ('/' :: slashes count) = []
      rw [pieces_slash, ih]

theorem dropWhile_slashes_append (count : Nat) (text : List Char) :
    (slashes count ++ text).dropWhile isSlash = text.dropWhile isSlash := by
  apply List.dropWhile_append_of_pos
  intro c inside
  rw [eq_slash_of_mem inside]
  rfl

theorem dropTrailing_slashes (count : Nat) :
    Text.dropTrailing isSlash (slashes count) = [] := by
  rw [Text.dropTrailing_eq_rdropWhile, List.rdropWhile_eq_nil_iff]
  intro c inside
  rw [eq_slash_of_mem inside]
  rfl

variable {names : List String} (valid : ∀ name ∈ names, IsName name)
include valid

theorem pieces_path_slashes (count : Nat) :
    pieces (path (names.map String.toList) ++ slashes count) = names.map String.toList := by
  have each := isSegment_of_plain fun name given => (valid name given).isPlainSegment
  rw [pieces_append (head?_slashes count), pieces_slashes, pieces_path each, List.append_nil]

theorem pieces_joined (count : Nat) :
    pieces (joined names ++ slashes count) = names.map String.toList := by
  by_cases given : names = []
  · rw [given]
    exact pieces_slashes count
  · rw [← pieces_slash, ← List.cons_append, slash_joined given]
    exact pieces_path_slashes valid count

theorem isPathChar_joined_slashes (closing : Nat) :
    ∀ c ∈ joined names ++ slashes closing, isPathChar c = true := by
  intro c inside
  rcases List.mem_append.mp inside with inNames | after
  · exact mem_joined valid inNames
  · rw [eq_slash_of_mem after]
    rfl

theorem isPathChar_slashes_joined (count closing : Nat) :
    ∀ c ∈ slashes count ++ (joined names ++ slashes closing), isPathChar c = true := by
  intro c inside
  rcases List.mem_append.mp inside with before | within
  · rw [eq_slash_of_mem before]
    rfl
  · exact isPathChar_joined_slashes valid closing c within

end Slashes

section Root

variable {root : List String} (names : ∀ name ∈ root, IsName name)
include names

theorem dropWhile_joined_append (given : root ≠ []) (rest : List Char) :
    (joined root ++ rest).dropWhile isSlash = joined root ++ rest := by
  have starts := head?_joined names
  cases text : joined root with
  | nil => exact absurd text (joined_ne_nil names given)
  | cons c others =>
      rw [text] at starts
      exact List.dropWhile_cons_of_neg (by simp [starts c rfl])

theorem dropWhile_path : (path (root.map String.toList)).dropWhile isSlash = joined root := by
  by_cases given : root = []
  · rw [given]
    rfl
  · have bare := dropWhile_joined_append names given []
    rw [List.append_nil] at bare
    rw [← slash_joined given]
    exact bare

theorem dropTrailing_joined_slashes (count : Nat) :
    Text.dropTrailing isSlash (joined root ++ slashes count) = joined root := by
  have kept : Text.dropTrailing isSlash (joined root) = joined root :=
    Text.dropTrailing_eq_self_iff.mpr (getLast?_joined names)
  rw [Text.dropTrailing_append kept, dropTrailing_slashes, List.append_nil]

theorem normalizeRoot_joined (leading trailing : Nat) :
    normalizeRoot (slashes leading ++ (joined root ++ slashes trailing)) =
      path (root.map String.toList) := by
  have noBlank : ∀ c ∈ slashes leading ++ (joined root ++ slashes trailing),
      Text.isBlank c = false :=
    fun c inside => isBlank_of_isPathChar (isPathChar_slashes_joined names leading trailing c inside)
  rw [normalizeRoot, Text.trim_eq_self noBlank, dropWhile_slashes_append]
  by_cases given : root = []
  · have gone := dropWhile_slashes_append trailing []
    rw [List.append_nil] at gone
    rw [given]
    change Text.dropTrailing isSlash ('/' :: Text.dropTrailing isSlash
      ((slashes trailing).dropWhile isSlash)) = []
    rw [gone]
    rfl
  · rw [dropWhile_joined_append names given, dropTrailing_joined_slashes names,
      ← slash_joined given, Text.dropTrailing_eq_self_iff,
      List.getLast?_cons_of_ne_nil (joined_ne_nil names given)]
    exact getLast?_joined names

theorem isRoot_path : IsRoot (path (root.map String.toList)) := by
  rw [← normalizeRoot_joined names 0 0]
  exact isRoot_normalizeRoot _

end Root

section Segments

variable {root segments : List String} (rootNames : ∀ name ∈ root, IsName name)
  (names : ∀ name ∈ segments, IsName name) (given : segments ≠ [])
include rootNames names given

theorem segments_rooted (count closing : Nat) :
    Locator.segments (path (root.map String.toList))
        (slashes count ++ (joined (root ++ segments) ++ slashes closing)) =
      segments.map String.toList := by
  by_cases empty : root = []
  · rw [empty, List.map_nil, path_nil, segments_nil, List.nil_append, ← pieces_dropWhile,
      dropWhile_slashes_append, pieces_dropWhile]
    exact pieces_joined names closing
  · have all : ∀ name ∈ root ++ segments, IsName name := by
      intro name listed
      rcases List.mem_append.mp listed with inRoot | inSegments
      · exact rootNames name inRoot
      · exact names name inSegments
    have below : (slashes count ++ (joined (root ++ segments) ++ slashes closing)).dropWhile
        isSlash = (path (root.map String.toList)).dropWhile isSlash ++
          (path (segments.map String.toList) ++ slashes closing) := by
      rw [dropWhile_slashes_append, dropWhile_joined_append all (by simp [empty]),
        dropWhile_path rootNames, joined_append empty, List.append_assoc]
    have opens : (path (segments.map String.toList) ++ slashes closing).head?.all isSlash := by
      cases segments with
      | nil => exact head?_slashes closing
      | cons first rest => rfl
    rw [(isRoot_path rootNames).segments_of_under opens below]
    exact pieces_path_slashes names closing

omit names given in
/-- Slashes at its end do not make a path start with the text of the root. -/
theorem not_opens_of_append
    (apart : ∀ rest, joined segments = joined root ++ rest → rest.head?.all isSlash = false)
    {closing : Nat} {rest : List Char}
    (under : joined segments ++ slashes closing = joined root ++ rest) :
    rest.head?.all isSlash = false := by
  rcases List.append_eq_append_iff.mp under with ⟨left, longer, cut⟩ | ⟨left, shorter, cut⟩
  · rcases List.eq_nil_or_concat' left with rfl | ⟨before, last, rfl⟩
    · -- The texts are the same.
      rw [List.append_nil] at longer
      exact absurd (apart [] (by rw [List.append_nil, longer])) (by simp)
    · -- The text of the root would end in a slash.
      have inSlashes : last ∈ slashes closing := by
        rw [cut]
        simp
      have noSlash := getLast?_joined rootNames last (by rw [longer]; simp)
      rw [eq_slash_of_mem inSlashes] at noSlash
      cases noSlash
  · have noSlash := apart left shorter
    rw [cut]
    cases left with
    | nil => simp at noSlash
    | cons c others => exact noSlash

theorem segments_bare
    (apart : ∀ rest, joined segments = joined root ++ rest → rest.head?.all isSlash = false)
    (count closing : Nat) :
    Locator.segments (path (root.map String.toList))
        (slashes count ++ (joined segments ++ slashes closing)) =
      segments.map String.toList := by
  have bare : (slashes count ++ (joined segments ++ slashes closing)).dropWhile isSlash =
      joined segments ++ slashes closing := by
    rw [dropWhile_slashes_append, dropWhile_joined_append names given]
  have other : ∀ rest, (slashes count ++ (joined segments ++ slashes closing)).dropWhile isSlash =
      (path (root.map String.toList)).dropWhile isSlash ++ rest →
        rest.head?.all isSlash = false := by
    intro rest under
    rw [bare, dropWhile_path rootNames] at under
    exact not_opens_of_append rootNames apart under
  rw [(isRoot_path rootNames).segments_of_not_under other, ← pieces_dropWhile, bare]
  exact pieces_joined names closing

end Segments

section Openings

variable {names : List String} (valid : ∀ name ∈ names, IsName name)

theorem Opening.isBlank_text (opening : Opening) : ∀ c ∈ opening.text, Text.isBlank c = false := by
  intro c inside
  cases opening with
  | relative count =>
      rw [eq_slash_of_mem inside]
      rfl
  | absolute origin =>
      rcases List.mem_append.mp inside with inOrigin | slash
      · have visible := origin.visible_text c inOrigin
        exact Text.isBlank_of_visible visible.1 visible.2
      · rw [List.mem_singleton.mp slash]
        rfl

theorem hasSchemeMark_origin (origin : Url.Origin) (rest : List Char) :
    hasSchemeMark (origin.text ++ rest) = true := by
  rw [Url.Origin.text, Url.Origin.scheme]
  cases origin.secure <;> rfl

include valid

theorem splitOn_joined_slashes (kept : ∀ name ∈ names, name ≠ "." ∧ name ≠ "..") (closing : Nat) :
    ∀ segment ∈ (joined names ++ slashes closing).splitOn '/',
      segment ≠ ['.'] ∧ segment ≠ ['.', '.'] := by
  intro segment listed
  by_cases empty : segment = []
  · simp [empty]
  · have piece : segment ∈ pieces (joined names ++ slashes closing) := by
      simp [pieces, listed, empty]
    rw [pieces_joined valid] at piece
    obtain ⟨name, given, rfl⟩ := List.mem_map.mp piece
    obtain ⟨single, double⟩ := kept name given
    refine ⟨fun dot => single ?_, fun dots => double ?_⟩
    · exact String.toList_inj.mp dot
    · exact String.toList_inj.mp dots

variable {suffix : List Char} (ends : ∀ c ∈ suffix.head?, Url.endsPath c = true) (closing : Nat)
include ends

theorem withoutQuery_relative (count : Nat) :
    withoutQuery (pathOf (slashes count ++ (joined names ++ slashes closing) ++ suffix)) =
      slashes count ++ (joined names ++ slashes closing) := by
  have written := isPathChar_slashes_joined valid count closing
  have noColon : ':' ∉ slashes count ++ (joined names ++ slashes closing) :=
    fun inside => absurd (written ':' inside) (by decide)
  have visible : ∀ c ∈ slashes count ++ (joined names ++ slashes closing), 0x20 < c.toNat :=
    fun c inside => (visible_of_isPathChar (written c inside)).1
  rw [pathOf_of_path?_eq_none (Url.path?_of_no_colon visible ends noColon)]
  exact withoutQuery_append (fun c inside => ne_query_of_isPathChar (written c inside)) ends

theorem withoutQuery_absolute (origin : Url.Origin)
    (kept : ∀ name ∈ names, name ≠ "." ∧ name ≠ "..") :
    withoutQuery (pathOf (origin.text ++ '/' :: (joined names ++ slashes closing ++ suffix))) =
      '/' :: (joined names ++ slashes closing) := by
  have written := isPathChar_joined_slashes valid closing
  have plain : ∀ c ∈ joined names ++ slashes closing,
      Url.isEncodedInPath c = false ∧ c ≠ '%' ∧ c ≠ '\\' := by
    intro c inside
    exact ⟨isEncodedInPath_of_isPathChar (written c inside),
      Text.ne_of_test (written c inside) (by decide),
      Text.ne_of_test (written c inside) (by decide)⟩
  have path := Url.path?_origin origin plain (splitOn_joined_slashes valid kept closing) ends
  rw [pathOf, if_pos (hasSchemeMark_origin origin _), path, Option.getD_some]
  apply withoutQuery_eq
  intro c inside
  rcases List.mem_cons.mp inside with rfl | inBody
  · decide
  · exact ne_query_of_isPathChar (written c inBody)

/-- In any form of an href, the path has the same names and slashes after them. -/
theorem withoutQuery_pathOf {opening : Opening} (keeps : opening.Keeps names) :
    ∃ count, withoutQuery (pathOf (Text.trim
        (opening.text ++ (joined names ++ slashes closing) ++ suffix))) =
      slashes count ++ (joined names ++ slashes closing) := by
  have solid : ∀ c ∈ opening.text ++ (joined names ++ slashes closing), Text.isBlank c = false := by
    intro c inside
    rcases List.mem_append.mp inside with inOpening | inBody
    · exact opening.isBlank_text c inOpening
    · exact isBlank_of_isPathChar (isPathChar_joined_slashes valid closing c inBody)
  have starts : ∀ c ∈ suffix.head?, Text.isBlank c = false := by
    intro c opens
    have visible := Url.visible_of_endsPath (ends c opens)
    exact Text.isBlank_of_visible visible.1 visible.2
  rw [← Text.head?_dropTrailing starts] at ends
  rw [Text.trim_append solid starts]
  cases opening with
  | relative count => exact ⟨count, withoutQuery_relative valid ends closing count⟩
  | absolute origin =>
      have path := withoutQuery_absolute valid ends closing origin keeps
      refine ⟨1, ?_⟩
      rw [Opening.text, List.append_assoc, List.append_assoc]
      exact path

end Openings

/-- All forms of an href lead to one address. -/
theorem parse_form (decoder : TokenDecoder) {root : List String}
    (rootNames : ∀ name ∈ root, IsName name) {first : String} {rest : List String}
    (names : ∀ name ∈ first :: rest, IsName name) {written : List String}
    (leads : LeadsTo root (first :: rest) written) {opening : Opening}
    (keeps : opening.Keeps written) {suffix : List Char}
    (ends : ∀ c ∈ suffix.head?, Url.endsPath c = true) (leading trailing closing : Nat) :
    (under (String.ofList (slashes leading ++ (joined root ++ slashes trailing))) decoder).parse
        (String.ofList (opening.text ++ (joined written ++ slashes closing) ++ suffix)) =
      if isVersionTag first then
        ⟨rest[0]?, rest[1]?.map decoder.canonical, rest[2]?, rest[3]?.map decoder.canonical,
          some first⟩
      else
        ⟨some first, rest[0]?.map decoder.canonical, rest[1]?, rest[2]?.map decoder.canonical,
          none⟩ := by
  have rootText : (under (String.ofList (slashes leading ++ (joined root ++ slashes trailing)))
      decoder).root.toList = path (root.map String.toList) := by
    rw [under, String.toList_ofList, String.toList_ofList, normalizeRoot_joined rootNames]
  have valid : ∀ name ∈ written, IsName name := by
    cases leads with
    | rooted =>
        intro name listed
        rcases List.mem_append.mp listed with inRoot | inSegments
        · exact rootNames name inRoot
        · exact names name inSegments
    | bare apart => exact names
  obtain ⟨count, cut⟩ := withoutQuery_pathOf valid ends closing keeps
  have read : segments (path (root.map String.toList))
      (slashes count ++ (joined written ++ slashes closing)) =
        (first :: rest).map String.toList := by
    cases leads with
    | rooted => exact segments_rooted rootNames names (List.cons_ne_nil first rest) count closing
    | bare apart =>
        exact segments_bare rootNames names (List.cons_ne_nil first rest) apart count closing
  rw [parse, rootText, String.toList_ofList, cut, read, List.map_map, String.ofList_comp_toList,
    List.map_id]
  split
  · rename_i tag
    exact ofSegments_tagged decoder.canonical tag rest
  · rename_i noTag
    change ofSegments decoder.canonical (first :: rest) = _
    rw [ofSegments_untagged decoder.canonical (by simpa using noTag)]
    rfl

/-- A host with a port, as in `https://host:8443`. -/
def hostWithPort : Url.Origin where
  secure := true
  host := ['h', 'o', 's', 't']
  port := some ['8', '4', '4', '3']
  host_given := by decide
  host_letters := List.all_eq_true.mp rfl
  port_digits := by
    rintro digits ⟨⟩
    exact List.all_eq_true.mp rfl
  port_bounded := by
    rintro digits ⟨⟩
    decide

theorem parse_form_machines :
    (∀ name ∈ ["api"], IsName name) ∧ (∀ name ∈ ["v1", "machines", "1r5"], IsName name) ∧
    (Opening.absolute hostWithPort).Keeps ["api", "v1", "machines", "1r5"] ∧
    (under "/api/" .compressed).parse "https://host:8443/api/v1/machines/1r5/?at=a://b" =
      ⟨some "machines", some "1000000000005", none, none, some "v1"⟩ := by
  have rootNames : ∀ name ∈ ["api"], IsName name := by decide
  have names : ∀ name ∈ ["v1", "machines", "1r5"], IsName name := by decide
  have keeps : (Opening.absolute hostWithPort).Keeps ["api", "v1", "machines", "1r5"] := by
    change ∀ name ∈ ["api", "v1", "machines", "1r5"], name ≠ "." ∧ name ≠ ".."
    decide
  have ends : ∀ c ∈ "?at=a://b".toList.head?, Url.endsPath c = true := by
    intro c opens
    rw [← Option.mem_some.mp opens]
    rfl
  have read := parse_form .compressed rootNames names .rooted keeps ends 1 1 1
  exact ⟨rootNames, names, keeps, read.trans (by decide +kernel)⟩

/-- Dots stay in a path with the root, but are resolved behind an origin; and where nothing stands
between two slashes, there is no segment. -/
theorem parse_dots_and_gaps :
    (under "/api" .compressed).parse "/api/machines/.." =
      ⟨some "machines", some "..", none, none, none⟩ ∧
    (under "/api" .compressed).parse "https://host:8443/api/machines/.." =
      ⟨none, none, none, none, none⟩ ∧
    (under "/api" .compressed).parse "/api/machines//tags" =
      ⟨some "machines", some "tags", none, none, none⟩ := by
  have resolved : Url.path? "https://host:8443/api/machines/..".toList = some "/api/".toList :=
    (Url.path?_eq hostWithPort rfl).trans (by decide +kernel)
  have path : pathOf (Text.trim "https://host:8443/api/machines/..".toList) = "/api/".toList := by
    have untrimmed : Text.trim "https://host:8443/api/machines/..".toList =
        "https://host:8443/api/machines/..".toList := by decide +kernel
    have marked : hasSchemeMark "https://host:8443/api/machines/..".toList = true := by
      decide +kernel
    rw [untrimmed, pathOf, if_pos marked, resolved, Option.getD_some]
  refine ⟨by decide +kernel, ?_, by decide +kernel⟩
  rw [parse, path]
  decide +kernel

end ResourceRouter.Locator
