import TaxiPipeline.Model.Sources
import TaxiPipeline.Model.Transaction

namespace TaxiPipeline

/-- The names on the way from the root of the file system, which has no links. -/
abbrev Path := List (List Char)

/-- The text between the slashes of a path. -/
def pathParts : List Char → Path
  | [] => [[]]
  | c :: rest =>
    if c = '/' then [] :: pathParts rest
    else match pathParts rest with
      | part :: parts => (c :: part) :: parts
      | [] => [[c]]

/-- One name of a path that `resolve` follows. -/
def followPart (path : Path) (part : List Char) : Path :=
  if part = [] ∨ part = ['.'] then path
  else if part = ['.', '.'] then path.dropLast
  else path ++ [part]

/-- `(root / text).resolve()`; an absolute text forgets the root. -/
def resolvePath (root : Path) (text : String) : Path :=
  (pathParts text.toList).foldl followPart (if text.toList.head? = some '/' then [] else root)

def landingRoot (root : Path) : Path := root ++ ["data".toList, "landing".toList]

/-- The path of a landing file, or the error with the given text when it is not under `data/landing`. -/
def underLanding (refusal : String) (repositoryRoot : Path) (landingPath : String) : Except PyException Path :=
  let destination := resolvePath repositoryRoot landingPath
  if (landingRoot repositoryRoot).isPrefixOf destination then .ok destination
  else .error (valueError refusal)

/-- `_destination`. -/
def destinationOf (repositoryRoot : Path) (landingPath : String) : Except PyException Path :=
  underLanding "Landing materialization must stay under data/landing" repositoryRoot landingPath

/-- The suffix of a file name: from its last dot on, unless the name begins or ends with that dot. -/
def nameSuffix (name : List Char) : List Char :=
  let extension := (name.reverse.takeWhile (· ≠ '.')).reverse
  if extension.length + 1 < name.length ∧ extension ≠ [] then '.' :: extension else []

/-- `Path(text).suffix.lower()`, as far as ASCII letters go. -/
def lowerSuffix (text : String) : List Char :=
  let names := (pathParts text.toList).filter fun part => part ≠ [] ∧ part ≠ ['.']
  (nameSuffix (names.getLast?.getD [])).map Char.toLower

theorem pathParts_plain {part : List Char} (plain : '/' ∉ part) : pathParts part = [part] := by
  induction part with
  | nil => rfl
  | cons c rest ih =>
    rw [List.mem_cons, not_or] at plain
    rw [pathParts, if_neg (Ne.symm plain.1), ih plain.2]

theorem pathParts_slash {part : List Char} (rest : List Char) (plain : '/' ∉ part) :
    pathParts (part ++ '/' :: rest) = part :: pathParts rest := by
  induction part with
  | nil => rw [List.nil_append, pathParts, if_pos rfl]
  | cons c part ih =>
    rw [List.mem_cons, not_or] at plain
    rw [List.cons_append, pathParts, if_neg (Ne.symm plain.1), ih plain.2]

/-- A name that `resolve` follows downwards. -/
def IsName (part : List Char) : Prop := part ≠ [] ∧ part ≠ ['.'] ∧ part ≠ ['.', '.']

theorem follow_names {parts : Path} (path : Path) (names : ∀ part ∈ parts, IsName part) :
    parts.foldl followPart path = path ++ parts := by
  induction parts generalizing path with
  | nil => exact (List.append_nil path).symm
  | cons part rest ih =>
    obtain ⟨nonempty, notHere, notUp⟩ := names part List.mem_cons_self
    rw [List.foldl_cons, followPart, if_neg (not_or.mpr ⟨nonempty, notHere⟩), if_neg notUp,
      ih _ fun other member => names other (List.mem_cons_of_mem _ member), List.append_assoc]
    rfl

theorem isName_of_mem {part : List Char} {c : Char} (member : c ∈ part) (noDot : c ≠ '.') : IsName part := by
  refine ⟨?_, ?_, ?_⟩ <;> rintro rfl <;> simp_all

theorem padded_exists (width n : Nat) : ∃ c ∈ (padded width n).toList, c ≠ '.' ∧ c ≠ '/' := by
  have nonempty : (padded width n).toList ≠ [] := by
    rw [padded, String.toList_ofList, show (toString n).toList = Nat.toDigits 10 n from Nat.toList_repr]
    simp
  obtain ⟨c, rest, is_cons⟩ := List.exists_cons_of_ne_nil nonempty
  have digit := padded_digits (is_cons ▸ List.mem_cons_self : c ∈ (padded width n).toList)
  refine ⟨c, is_cons ▸ List.mem_cons_self, ?_, ?_⟩ <;> rintro rfl <;> exact absurd digit (by decide)

/-- The digits of a number tell the number, whatever zeros are before them. -/
theorem padded_value (width n : Nat) : Nat.ofDigitChars 10 (padded width n).toList 0 = n := by
  rw [padded, String.toList_ofList, show (toString n).toList = Nat.toDigits 10 n from Nat.toList_repr,
    Nat.ofDigitChars_append, Nat.ofDigitChars_replicate_zero, Nat.mul_zero, Nat.ofDigitChars_ten_toDigits]

theorem padded_injective {width m n : Nat} (same : padded width m = padded width n) : m = n := by
  rw [← padded_value width m, same, padded_value]

/-- A path of names under `data/landing` resolves to where it says. -/
theorem resolvePath_landing {root : Path} {text : String} {names : Path}
    (parts : pathParts text.toList = "data".toList :: "landing".toList :: names)
    (relative : text.toList.head? ≠ some '/') (isNames : ∀ part ∈ names, IsName part) :
    resolvePath root text = landingRoot root ++ names := by
  have all : ∀ part ∈ "data".toList :: "landing".toList :: names, IsName part := by
    intro part member
    rcases List.mem_cons.mp member with rfl | member
    · exact ⟨by decide, by decide, by decide⟩
    · rcases List.mem_cons.mp member with rfl | member
      · exact ⟨by decide, by decide, by decide⟩
      · exact isNames part member
  rw [resolvePath, if_neg relative, parts, follow_names root all, landingRoot, List.append_assoc]
  rfl

theorem monthlyTripSource_landing {service : String} {year month : Int} {source : SourcePartition}
    (resolved : monthlyTripSource service year month = .ok source) :
    source.landingPath = "data/landing/" ++ service ++ "/" ++ padded 4 year.toNat ++ "/" ++
      padded 2 month.toNat ++ ".parquet" := by
  unfold monthlyTripSource at resolved
  split at resolved
  · cases resolved
  · split at resolved
    · cases resolved
    · cases resolved
      rfl

theorem padded_noSlash (width n : Nat) : '/' ∉ (padded width n).toList :=
  fun member => absurd (padded_digits member) (by decide)

theorem monthlyTripSource_parts {service : String} {year month : Int} {source : SourcePartition}
    (resolved : monthlyTripSource service year month = .ok source) (plain : '/' ∉ service.toList) :
    pathParts source.landingPath.toList = ["data".toList, "landing".toList, service.toList,
      (padded 4 year.toNat).toList, (padded 2 month.toNat).toList ++ ".parquet".toList] := by
  have landing := monthlyTripSource_landing resolved
  have chars : source.landingPath.toList = "data".toList ++ '/' :: ("landing".toList ++ '/' ::
      (service.toList ++ '/' :: ((padded 4 year.toNat).toList ++ '/' ::
        ((padded 2 month.toNat).toList ++ ".parquet".toList)))) := by
    simp [landing, String.toList_append]
  rw [chars, pathParts_slash _ (by decide), pathParts_slash _ (by decide), pathParts_slash _ plain,
    pathParts_slash _ (padded_noSlash _ _), pathParts_plain]
  rw [List.mem_append, not_or]
  exact ⟨padded_noSlash _ _, by decide⟩

theorem monthlyTripSource_path {service : String} {year month : Int} {source : SourcePartition} (root : Path)
    (resolved : monthlyTripSource service year month = .ok source) (plain : '/' ∉ service.toList)
    (named : IsName service.toList) :
    resolvePath root source.landingPath = landingRoot root ++
      [service.toList, (padded 4 year.toNat).toList, (padded 2 month.toNat).toList ++ ".parquet".toList] := by
  have relative : source.landingPath.toList.head? ≠ some '/' := by
    simp [monthlyTripSource_landing resolved, String.toList_append]
  refine resolvePath_landing (monthlyTripSource_parts resolved plain) relative ?_
  intro part member
  simp only [List.mem_cons, List.not_mem_nil, or_false] at member
  obtain ⟨c, inYear, notDot, -⟩ := padded_exists 4 year.toNat
  have lastName : 'p' ∈ (padded 2 month.toNat).toList ++ ".parquet".toList := by simp
  rcases member with same | same | same
  · exact same ▸ named
  · exact same ▸ isName_of_mem inYear notDot
  · exact same ▸ isName_of_mem lastName (by decide)

/-- The resolvers place every file under `data/landing`. -/
theorem Resolved.underLanding {source : SourcePartition} (resolved : Resolved source) (refusal : String)
    (root : Path) : underLanding refusal root source.landingPath = .ok (resolvePath root source.landingPath) := by
  have below : ∃ names, resolvePath root source.landingPath = landingRoot root ++ names := by
    cases resolved with
    | yellow ok => exact ⟨_, monthlyTripSource_path root ok (by decide) ⟨by decide, by decide, by decide⟩⟩
    | green ok => exact ⟨_, monthlyTripSource_path root ok (by decide) ⟨by decide, by decide, by decide⟩⟩
    | zones =>
      exact ⟨["reference".toList, "taxi_zone_lookup.csv".toList], resolvePath_landing (by decide) (by decide)
        (by simp [IsName])⟩
  obtain ⟨names, path⟩ := below
  unfold TaxiPipeline.underLanding
  rw [if_pos]
  rw [path, List.isPrefixOf_iff_prefix]
  exact List.prefix_append ..

end TaxiPipeline
