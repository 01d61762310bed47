import MediaServer.Foundation.TrimEnd
import MediaServer.Transcription.OpenAi

/-!
# The request URL of the OpenAI backend

`OpenAiSyncBackend::new` takes `/models` off the end of a base URL that ends in it, as
often as it stands there, and `transcribe_chunk_sync` takes off the slashes that stand at
the end then, before it appends the path of the request.  The slashes go last: a
`/models` with slashes behind it is at no time at the end of the URL when `/models` is
looked for, and stays.  `OpenAiBackend` does the same.

* `models_suffix_trimmedUrl_iff`: exactly such a `/models` is left at the end;
* `trimmedUrl_append_pieces`: otherwise any number of `/models` and `/` make no difference;
* `keepsRequestUrl_iff`: both, for the request URL.
-/

namespace MediaServer
namespace Transcription

open Foundation

/-- What `new` looks for at the end of a base URL. -/
def modelsPath : List Char := "/models".toList

/-- What `transcribe_chunk_sync` appends to it. -/
def transcriptionsPath : List Char := "/audio/transcriptions".toList

namespace OpenAiSyncBackend

/-- The base URL that `OpenAiSyncBackend::new` hands to its worker thread. -/
def workerBaseUrl (baseUrl : Option String) : String :=
  let baseUrl := baseUrl.getD "https://api.openai.com/v1"
  if modelsPath.isSuffixOf baseUrl.toList then
    String.ofList (trimEndMatches modelsPath baseUrl.toList)
  else baseUrl

/-- The `url` of `transcribe_chunk_sync`. -/
def transcriptionsUrl (baseUrl : String) : String :=
  String.ofList (trimEndMatches ['/'] baseUrl.toList ++ transcriptionsPath)

/-- Where a backend with this base URL sends its requests. -/
def requestUrl (baseUrl : Option String) : String := transcriptionsUrl (workerBaseUrl baseUrl)

end OpenAiSyncBackend

/-! ## What the two trims leave -/

/-- What is left of a base URL before the path of the request. -/
def trimmedUrl (url : List Char) : List Char := trimEndMatches ['/'] (trimEndMatches modelsPath url)

/-- The URL ends in `/models`, slashes, and nothing but `/models` behind them. -/
def HidesModels (url : List Char) : Prop :=
  ∃ rest slashes models,
    url = rest ++ modelsPath ++ copies (slashes + 1) ['/'] ++ copies models modelsPath

theorem modelsPath_ne_nil : modelsPath ≠ [] := by decide

theorem slash_ne_nil : ['/'] ≠ [] := by decide

/-- The test in `new` makes no difference. -/
theorem toList_workerBaseUrl (base : String) :
    (OpenAiSyncBackend.workerBaseUrl (some base)).toList =
      trimEndMatches modelsPath base.toList := by
  rw [OpenAiSyncBackend.workerBaseUrl, Option.getD_some]
  split
  · rw [String.toList_ofList]
  · rename_i hends
    rw [List.isSuffixOf_iff_suffix] at hends
    rw [trimEndMatches_of_not_suffix modelsPath_ne_nil hends]

theorem toList_requestUrl (base : String) :
    (OpenAiSyncBackend.requestUrl (some base)).toList =
      trimmedUrl base.toList ++ transcriptionsPath := by
  rw [OpenAiSyncBackend.requestUrl, OpenAiSyncBackend.transcriptionsUrl, String.toList_ofList,
    toList_workerBaseUrl, trimmedUrl]

theorem not_slash_suffix_models (url : List Char) : ¬ ['/'] <:+ url ++ modelsPath := by
  have hmodels : modelsPath = "/model".toList ++ ['s'] := by decide
  rw [hmodels, ← List.append_assoc, List.singleton_suffix_append_singleton_iff]
  decide

theorem not_models_suffix_slash (url : List Char) : ¬ modelsPath <:+ url ++ ['/'] := by
  intro hsuffix
  have hlast := hsuffix.getLast modelsPath_ne_nil
  rw [List.getLast_concat] at hlast
  revert hlast
  decide

theorem not_slash_suffix_trimmedUrl (url : List Char) : ¬ ['/'] <:+ trimmedUrl url :=
  not_suffix_trimEndMatches slash_ne_nil _

theorem trimmedUrl_prefix_self (url : List Char) : trimmedUrl url <+: url := by
  have hslashes := trimEndMatches_prefix_self slash_ne_nil (trimEndMatches modelsPath url)
  exact hslashes.trans (trimEndMatches_prefix_self modelsPath_ne_nil url)

/-- A `/models` is left at the end exactly when slashes hide it from the first trim. -/
theorem models_suffix_trimmedUrl_iff {url : List Char} :
    modelsPath <:+ trimmedUrl url ↔ HidesModels url := by
  constructor
  · rintro ⟨rest, hrest⟩
    obtain ⟨models, hmodels⟩ := exists_trimEndMatches modelsPath_ne_nil url
    obtain ⟨slashes, hslashes⟩ :=
      exists_trimEndMatches slash_ne_nil (trimEndMatches modelsPath url)
    change _ = trimmedUrl url ++ _ at hslashes
    rw [← hrest] at hslashes
    cases slashes with
    | zero =>
        -- the first trim would have found it
        rw [copies_zero, List.append_nil] at hslashes
        have hends : modelsPath <:+ trimEndMatches modelsPath url := ⟨rest, hslashes.symm⟩
        exact absurd hends (not_suffix_trimEndMatches modelsPath_ne_nil url)
    | succ slashes =>
        refine ⟨rest, slashes, models, ?_⟩
        rw [← hslashes]
        exact hmodels
  · rintro ⟨rest, slashes, models, rfl⟩
    have hfirst : ¬ modelsPath <:+ rest ++ modelsPath ++ copies (slashes + 1) ['/'] := by
      rw [copies_succ, ← List.append_assoc]
      exact not_models_suffix_slash _
    rw [trimmedUrl, trimEndMatches_append modelsPath_ne_nil hfirst,
      trimEndMatches_append slash_ne_nil (not_slash_suffix_models rest)]
    exact List.suffix_append rest modelsPath

/-! ## More pieces at the end -/

/-- What may follow a base URL. -/
inductive UrlPiece
  | models
  | slash
  deriving DecidableEq

def UrlPiece.text : UrlPiece → List Char
  | models => modelsPath
  | slash => ['/']

/-- The text of some pieces. -/
def piecesText (pieces : List UrlPiece) : List Char := pieces.flatMap UrlPiece.text

theorem piecesText_concat (pieces : List UrlPiece) (piece : UrlPiece) :
    piecesText (pieces ++ [piece]) = piecesText pieces ++ piece.text := by
  simp [piecesText]

/-- What is hidden stays hidden behind one more piece. -/
theorem HidesModels.append_piece {url : List Char} (hhides : HidesModels url)
    (piece : UrlPiece) : HidesModels (url ++ piece.text) := by
  obtain ⟨rest, slashes, models, rfl⟩ := hhides
  cases piece with
  | models =>
      refine ⟨rest, slashes, models + 1, ?_⟩
      rw [UrlPiece.text, copies_succ models, ← List.append_assoc _ (copies models modelsPath)]
  | slash =>
      cases models with
      | zero =>
          refine ⟨rest, slashes + 1, 0, ?_⟩
          rw [UrlPiece.text, copies_zero, List.append_nil, List.append_nil, List.append_assoc,
            ← copies_succ]
      | succ models =>
          -- the slash hides the last of them in its turn
          refine ⟨rest ++ modelsPath ++ copies (slashes + 1) ['/'] ++ copies models modelsPath,
            0, 0, ?_⟩
          rw [UrlPiece.text, copies_succ models, copies_succ 0 ['/'], copies_zero, copies_zero,
            List.append_nil, List.nil_append, ← List.append_assoc _ (copies models modelsPath)]

/-- One more piece makes no difference if nothing is hidden then. -/
theorem trimmedUrl_append_piece {url : List Char} {piece : UrlPiece}
    (hshown : ¬ HidesModels (url ++ piece.text)) :
    trimmedUrl (url ++ piece.text) = trimmedUrl url := by
  cases piece with
  | models => rw [UrlPiece.text, trimmedUrl, trimEndMatches_append_self modelsPath_ne_nil,
      trimmedUrl]
  | slash =>
      have hmodels : ¬ modelsPath <:+ url := by
        rintro ⟨rest, rfl⟩
        exact hshown ⟨rest, 0, 0, by simp [UrlPiece.text, copies_succ]⟩
      rw [UrlPiece.text, trimmedUrl,
        trimEndMatches_of_not_suffix modelsPath_ne_nil (not_models_suffix_slash url),
        trimEndMatches_append_self slash_ne_nil, trimmedUrl,
        trimEndMatches_of_not_suffix modelsPath_ne_nil hmodels]

/-- Any number of pieces makes no difference if nothing is hidden behind all of them. -/
theorem trimmedUrl_append_pieces {base : List Char} {pieces : List UrlPiece}
    (hshown : ¬ HidesModels (base ++ piecesText pieces)) :
    trimmedUrl (base ++ piecesText pieces) = trimmedUrl base := by
  induction pieces using List.reverseRecOn with
  | nil => rw [piecesText, List.flatMap_nil, List.append_nil]
  | append_singleton pieces piece ih =>
      rw [piecesText_concat, ← List.append_assoc] at hshown ⊢
      have hbefore : ¬ HidesModels (base ++ piecesText pieces) :=
        fun hhides => hshown (hhides.append_piece piece)
      rw [trimmedUrl_append_piece hshown, ih hbefore]

/-! ## The request URL -/

/-- `audio` behind a doubled slash. -/
def doubledSlash : List Char := '/' :: '/' :: "audio".toList

namespace OpenAiSyncBackend

/-- A base URL with pieces behind it. -/
def withPieces (base : String) (pieces : List UrlPiece) : String :=
  base ++ String.ofList (piecesText pieces)

theorem toList_withPieces (base : String) (pieces : List UrlPiece) :
    (withPieces base pieces).toList = base.toList ++ piecesText pieces := by
  rw [withPieces, String.toList_append, String.toList_ofList]

/-- The pieces behind a base URL do not show in the request URL. -/
structure KeepsRequestUrl (base : String) (pieces : List UrlPiece) : Prop where
  same : requestUrl (some (withPieces base pieces)) = requestUrl (some base)
  /-- it is not of the form `.../models/audio/transcriptions` -/
  models :
    ¬ modelsPath ++ transcriptionsPath <:+ (requestUrl (some (withPieces base pieces))).toList
  /-- no doubled slash stands before the `audio` of the path -/
  slashes : ¬ '/' :: transcriptionsPath <:+ (requestUrl (some (withPieces base pieces))).toList
  /-- nor before another one, if not in the base URL already -/
  others : doubledSlash <:+: (requestUrl (some (withPieces base pieces))).toList →
    doubledSlash <:+: base.toList

/-- A doubled slash before `audio` is not made by appending the path. -/
theorem doubledSlash_infix_of_append {url : List Char} (hslash : ¬ ['/'] <:+ url)
    (hdoubled : doubledSlash <:+: url ++ transcriptionsPath) : doubledSlash <:+: url := by
  obtain hurl | hpath | ⟨front, back, hfront, hback, htext, hsuffix, hprefix⟩ :=
    List.infix_append_iff_ne_nil.mp hdoubled
  · exact hurl
  · exact absurd hpath (by decide)
  · -- the path starts with a slash, so it can take part only from the second one on
    obtain ⟨first, rest, rfl⟩ := List.exists_cons_of_ne_nil hfront
    obtain ⟨second, more, rfl⟩ := List.exists_cons_of_ne_nil hback
    obtain rfl : second = '/' := by
      obtain ⟨path, hpath⟩ := hprefix
      exact (List.cons.inj hpath).1
    obtain ⟨rfl, hrest⟩ := List.cons.inj htext
    cases rest with
    | nil => exact absurd hsuffix hslash
    | cons third rest =>
        obtain ⟨-, haudio⟩ := List.cons.inj hrest
        have hmem : '/' ∈ "audio".toList := by
          rw [haudio]
          simp
        exact absurd hmem (by decide)

/-- The pieces behind a base URL do not show exactly when no `/models` is hidden. -/
theorem keepsRequestUrl_iff (base : String) (pieces : List UrlPiece) :
    KeepsRequestUrl base pieces ↔ ¬ HidesModels (withPieces base pieces).toList := by
  constructor
  · intro hkeeps hhides
    apply hkeeps.models
    rw [toList_requestUrl, List.suffix_append_self_iff]
    exact models_suffix_trimmedUrl_iff.mpr hhides
  · intro hshown
    have htrimmed : trimmedUrl (withPieces base pieces).toList = trimmedUrl base.toList := by
      rw [toList_withPieces] at hshown ⊢
      exact trimmedUrl_append_pieces hshown
    have hslash := not_slash_suffix_trimmedUrl base.toList
    refine ⟨?_, ?_, ?_, ?_⟩
    · rw [← String.toList_inj, toList_requestUrl, toList_requestUrl, htrimmed]
    · rw [toList_requestUrl, List.suffix_append_self_iff, models_suffix_trimmedUrl_iff]
      exact hshown
    · rw [toList_requestUrl, htrimmed, ← List.singleton_append, List.suffix_append_self_iff]
      exact hslash
    · intro hdoubled
      rw [toList_requestUrl, htrimmed] at hdoubled
      have htrim := (trimmedUrl_prefix_self base.toList).isInfix
      exact (doubledSlash_infix_of_append hslash hdoubled).trans htrim

/-- The URL of the list of models with a slash behind it is taken for a base URL. -/
theorem models_slash_shows : ¬ KeepsRequestUrl "https://api.openai.com/v1" [.models, .slash] := by
  intro hkeeps
  apply hkeeps.models
  rw [toList_requestUrl, toList_withPieces]
  decide

end OpenAiSyncBackend
end Transcription
end MediaServer
