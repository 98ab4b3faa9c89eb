import FilterRollout.Filter.Image
import FilterRollout.Proofs.Text.Pieces
import FilterRollout.Release.Image

/-! References to images, and the version that is read out of one. A reference has up to three colons, before a port,
before a tag and inside a digest. Main statement: `versionOfImage_text_iff`, which says when the version comes from the
tag. -/

namespace FilterRollout

/-- The tag of an image: letters, digits, underscores, points and dashes, with neither a point nor a dash in front. -/
structure ImageTag where
  text : String
  some : text ≠ ""
  plain : ∀ c ∈ text.toList, c.isAlphanum = true ∨ c ∈ ['_', '.', '-']
  begins : ∀ c ∈ text.toList.head?, c ∉ ['.', '-']

/-- The digest of an image: an algorithm and a body of hexadecimal digits. -/
structure ImageDigest where
  algorithm : String
  hex : String
  algorithmSome : algorithm ≠ ""
  algorithmPlain : ∀ c ∈ algorithm.toList, c.isAlphanum = true ∨ c ∈ ['+', '_', '.', '-']
  hexSome : hex ≠ ""
  hexPlain : ∀ c ∈ hex.toList, isHexDigit c = true

/-- A reference `[host[:port]/]path[:tag][@algorithm:hex]`, whose path consists of folders and a name. Hosts, ports and
folders may be any texts. -/
structure ImageReference where
  host : Option (String × Option String)
  folders : List String
  name : String
  tag : Option ImageTag
  digest : Option ImageDigest
  named : name ≠ ""
  plain : ∀ c ∈ name.toList, c ∉ ['/', ':', '@']

namespace ImageTag

theorem not_mem_text (tag : ImageTag) {c : Char} (strange : c.isAlphanum = false)
    (other : c ∉ ['_', '.', '-']) : c ∉ tag.text.toList := by
  intro member
  rcases tag.plain c member with usual | listed
  · simp [usual] at strange
  · exact other listed

end ImageTag

namespace ImageDigest

def text (digest : ImageDigest) : String := s!"@{digest.algorithm}:{digest.hex}"

theorem toList_text (digest : ImageDigest) :
    digest.text.toList = '@' :: (digest.algorithm.toList ++ ':' :: digest.hex.toList) := by
  simp [text, toString, String.toList_append]

theorem not_mem_algorithm (digest : ImageDigest) {c : Char} (strange : c.isAlphanum = false)
    (other : c ∉ ['+', '_', '.', '-']) : c ∉ digest.algorithm.toList := by
  intro member
  rcases digest.algorithmPlain c member with usual | listed
  · simp [usual] at strange
  · exact other listed

theorem not_mem_hex (digest : ImageDigest) {c : Char} (strange : isHexDigit c = false) : c ∉ digest.hex.toList := by
  intro member
  simp [digest.hexPlain c member] at strange

theorem slash_not_mem_text (digest : ImageDigest) : '/' ∉ digest.text.toList := by
  rw [toList_text]
  simp [digest.not_mem_algorithm (c := '/') (by decide) (by decide), digest.not_mem_hex (c := '/') (by decide)]

end ImageDigest

namespace ImageReference

/-- The host with its port. -/
def hostText : String × Option String → String
  | (host, none) => host
  | (host, some port) => s!"{host}:{port}"

/-- What the slashes of a reference end. -/
def places (reference : ImageReference) : List String :=
  (reference.host.map hostText).toList ++ reference.folders

def tagText (reference : ImageReference) : String := reference.tag.elim "" fun tag => ":" ++ tag.text

def digestText (reference : ImageReference) : String := reference.digest.elim "" ImageDigest.text

/-- What stands behind the last slash. -/
def lastText (reference : ImageReference) : String := reference.name ++ reference.tagText ++ reference.digestText

def text (reference : ImageReference) : String :=
  String.ofList (reference.places.flatMap fun place => place.toList ++ ['/']) ++ reference.lastText

/-- What the tag says about the version: all of it up to the first dash. Without a tag there is no version. -/
def tagVersion (reference : ImageReference) : Except Error String :=
  match reference.tag with
  | some tag => .ok (Text.upTo '-' tag.text)
  | none => .error (.collaborator "version-lookup" s!"istiod image {Text.quoted reference.text} has no version tag")

variable (reference : ImageReference)

theorem slash_not_mem_lastText : '/' ∉ reference.lastText.toList := by
  have tags : '/' ∉ reference.tagText.toList := by
    unfold tagText
    cases reference.tag with
    | none => simp
    | some tag => simpa using tag.not_mem_text (c := '/') (by decide) (by decide)
  have digests : '/' ∉ reference.digestText.toList := by
    unfold digestText
    cases reference.digest with
    | none => simp
    | some digest => exact digest.slash_not_mem_text
  have names : '/' ∉ reference.name.toList := fun member => reference.plain '/' member (by decide)
  simp [lastText, names, tags, digests]

theorem afterLast_text : Text.afterLast '/' reference.text = reference.lastText := by
  rcases List.eq_nil_or_concat' reference.places with none | ⟨places, last, split⟩
  · rw [text, none, List.flatMap_nil, String.ofList_nil, String.empty_append]
    exact Text.afterLast_of_not_mem reference.slash_not_mem_lastText
  · have whole : reference.text = String.ofList
        ((places.flatMap (fun place => place.toList ++ ['/']) ++ last.toList) ++ '/' :: reference.lastText.toList) := by
      refine String.toList_inj.mp ?_
      simp [text, split]
    rw [whole, Text.afterLast_append _ reference.slash_not_mem_lastText, String.ofList_toList]

variable {reference}

theorem versionOfImage_of_cut {before behind : String}
    (cut : reference.lastText.toList = before.toList ++ ':' :: behind.toList) (first : ':' ∉ before.toList)
    (some : behind ≠ "") : versionOfImage reference.text = .ok (Text.upTo '-' behind) := by
  rw [versionOfImage, reference.afterLast_text, Text.cut?_of_toList cut first, ← Text.elim_cut?]
  split
  · contradiction
  · rename_i same
    exact absurd (Prod.mk.inj (Option.some.inj same)).2 some
  · rename_i same
    rw [(Prod.mk.inj (Option.some.inj same)).2]

theorem colon_not_mem_name : ':' ∉ reference.name.toList := fun member => reference.plain ':' member (by decide)

/-- A tag is read together with the digest behind it. -/
theorem versionOfImage_of_tag {tag : ImageTag} (tagged : reference.tag = some tag) :
    versionOfImage reference.text = .ok (Text.upTo '-' (tag.text ++ reference.digestText)) := by
  refine versionOfImage_of_cut ?_ reference.colon_not_mem_name ?_
  · simp [lastText, tagText, tagged]
  · exact fun empty => tag.some (String.append_eq_empty_iff.mp empty).1

/-- Without a tag the body of the digest is read. -/
theorem versionOfImage_of_digest {digest : ImageDigest} (untagged : reference.tag = none)
    (pinned : reference.digest = some digest) : versionOfImage reference.text = .ok digest.hex := by
  have whole : Text.upTo '-' digest.hex = digest.hex := Text.upTo_of_not_mem (digest.not_mem_hex (by decide))
  have cut : reference.lastText.toList =
      (reference.name ++ "@" ++ digest.algorithm).toList ++ ':' :: digest.hex.toList := by
    simp [lastText, tagText, digestText, untagged, pinned, digest.toList_text]
  have first : ':' ∉ (reference.name ++ "@" ++ digest.algorithm).toList := by
    simp [reference.colon_not_mem_name, digest.not_mem_algorithm (c := ':') (by decide) (by decide)]
  rw [← whole]
  exact versionOfImage_of_cut cut first digest.hexSome

theorem versionOfImage_of_bare (untagged : reference.tag = none) (unpinned : reference.digest = none) :
    versionOfImage reference.text = reference.tagVersion := by
  have bare : reference.lastText = reference.name := by simp [lastText, tagText, digestText, untagged, unpinned]
  rw [versionOfImage, reference.afterLast_text, bare, Text.cut?_of_not_mem colon_not_mem_name, tagVersion, untagged]

/-- The version of an image is what its tag says, or missing as the tag is, exactly if the image is not pinned by a
digest or the tag has a dash in it. Otherwise the digest gets into the version: behind a tag without a dash, with all
up to a dash in the algorithm, and in place of a missing tag with its body. -/
theorem versionOfImage_text_iff (reference : ImageReference) :
    (versionOfImage reference.text = reference.tagVersion ↔
        reference.digest = none ∨ ∃ tag ∈ reference.tag, '-' ∈ tag.text.toList) ∧
      ∀ digest ∈ reference.digest, versionOfImage reference.text =
        .ok (reference.tag.elim digest.hex fun tag => Text.upTo '-' (tag.text ++ digest.text)) := by
  constructor
  · cases tagged : reference.tag with
    | none =>
      cases pinned : reference.digest with
      | none => simp [versionOfImage_of_bare tagged pinned]
      | some digest => simp [versionOfImage_of_digest tagged pinned, tagVersion, tagged]
    | some tag =>
      rw [versionOfImage_of_tag tagged, tagVersion, tagged]
      cases pinned : reference.digest with
      | none => simp [digestText, pinned]
      | some digest =>
        have shows : Text.upTo '-' (tag.text ++ digest.text) = Text.upTo '-' tag.text ↔ '-' ∈ tag.text.toList :=
          Text.upTo_append_iff ⟨'@', by simp [digest.toList_text], by decide⟩
        simpa [digestText, pinned] using shows
  · intro digest pinned
    cases tagged : reference.tag with
    | none => exact versionOfImage_of_digest tagged pinned
    | some tag =>
      rw [versionOfImage_of_tag tagged, digestText, Option.mem_def.mp pinned]
      rfl

/-- An image that is pinned by its digest and has no tag. -/
def pinned : ImageReference where
  host := some ("docker.io", none)
  folders := ["istio"]
  name := "pilot"
  tag := none
  digest := some ⟨"sha256", "ab12", by decide, by simp, by decide, by simp [isHexDigit]⟩
  named := by decide
  plain := by simp

/-- The digest of that image is taken for a version. -/
theorem versionOfImage_takes_digest :
    pinned.text = "docker.io/istio/pilot@sha256:ab12" ∧ pinned.tag.isNone = true ∧
      versionOfImage pinned.text = .ok "ab12" := by
  decide +kernel

end ImageReference

end FilterRollout
