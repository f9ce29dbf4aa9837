import Mathlib.Data.List.Infix

/-!
# Patterns of `LIKE`

A pattern of SQL's `LIKE`: `%` stands for any text, `_` for any character, and a backslash takes the
next character as it is.  `likeTokens` reads a pattern, `likeMatch` runs it over a text.

* `likeMatch_iff`: the matcher accepts what the pattern describes (`Described`).
* `likeMatch_contained`: a plain text between two `%` matches the texts it occurs in.
-/

namespace DealFlow.Lib

inductive LikeToken
  | any
  | one
  | char (c : Char)
  deriving DecidableEq, Repr

/-- The tokens of a pattern, `none` where it ends in the escape character. -/
def likeTokens : List Char → Option (List LikeToken)
  | [] => some []
  | ['\\'] => none
  | '\\' :: c :: rest => (likeTokens rest).map (.char c :: ·)
  | '%' :: rest => (likeTokens rest).map (.any :: ·)
  | '_' :: rest => (likeTokens rest).map (.one :: ·)
  | c :: rest => (likeTokens rest).map (.char c :: ·)

def likeMatch : List LikeToken → List Char → Bool
  | [], text => text.isEmpty
  | .any :: tokens, text => text.tails.any (likeMatch tokens)
  | .one :: _, [] => false
  | .one :: tokens, _ :: text => likeMatch tokens text
  | .char _ :: _, [] => false
  | .char c :: tokens, d :: text => c = d && likeMatch tokens text

/-- The texts that tokens describe. -/
inductive Described : List LikeToken → List Char → Prop
  | nil : Described [] []
  | any {tokens : List LikeToken} (skipped : List Char) {text : List Char} :
      Described tokens text → Described (.any :: tokens) (skipped ++ text)
  | one {tokens : List LikeToken} (d : Char) {text : List Char} :
      Described tokens text → Described (.one :: tokens) (d :: text)
  | char {tokens : List LikeToken} (c : Char) {text : List Char} :
      Described tokens text → Described (.char c :: tokens) (c :: text)

theorem likeMatch_iff (tokens : List LikeToken) (text : List Char) :
    likeMatch tokens text = true ↔ Described tokens text := by
  induction tokens generalizing text with
  | nil =>
      cases text with
      | nil => exact iff_of_true rfl .nil
      | cons d text => exact iff_of_false nofun nofun
  | cons token tokens ih =>
      cases token with
      | any =>
          rw [likeMatch, List.any_eq_true]
          constructor
          · rintro ⟨rest, mem, matched⟩
            obtain ⟨skipped, rfl⟩ := (List.mem_tails _ _).mp mem
            exact .any skipped ((ih rest).mp matched)
          · intro described
            cases described with
            | @any _ skipped rest described =>
                exact ⟨rest, (List.mem_tails _ _).mpr (List.suffix_append _ _),
                  (ih rest).mpr described⟩
      | one =>
          cases text with
          | nil => exact iff_of_false nofun nofun
          | cons d text =>
              rw [likeMatch, ih]
              refine ⟨.one d, fun described => ?_⟩
              cases described with
              | one _ described => exact described
      | char c =>
          cases text with
          | nil => exact iff_of_false nofun nofun
          | cons d text =>
              rw [likeMatch, Bool.and_eq_true, decide_eq_true_eq, ih]
              constructor
              · rintro ⟨rfl, described⟩
                exact .char c described
              · intro described
                cases described with
                | char _ described => exact ⟨rfl, described⟩

/-- Characters that stand for themselves. -/
def isPlain (c : Char) : Bool :=
  c != '%' && c != '_' && c != '\\'

theorem likeTokens_cons {c : Char} (plain : isPlain c = true) (rest : List Char) :
    likeTokens (c :: rest) = (likeTokens rest).map (.char c :: ·) := by
  simp only [isPlain, Bool.and_eq_true, bne_iff_ne] at plain
  obtain ⟨⟨notAny, notOne⟩, notEscape⟩ := plain
  rw [likeTokens]
  · exact fun eq => absurd eq notEscape
  · exact fun _ _ eq => absurd eq notEscape
  · exact fun eq => absurd eq notAny
  · exact fun eq => absurd eq notOne

theorem likeTokens_append {text : List Char} (plain : ∀ c ∈ text, isPlain c = true)
    (rest : List Char) :
    likeTokens (text ++ rest) = (likeTokens rest).map (text.map .char ++ ·) := by
  induction text with
  | nil => simp
  | cons c text ih =>
      obtain ⟨head, tail⟩ := List.forall_mem_cons.mp plain
      rw [List.cons_append, likeTokens_cons head, ih tail, Option.map_map]
      rfl

theorem described_chars {text : List Char} {tokens : List LikeToken} {whole : List Char} :
    Described (text.map .char ++ tokens) whole ↔
      ∃ rest, whole = text ++ rest ∧ Described tokens rest := by
  induction text generalizing whole with
  | nil => simp
  | cons c text ih =>
      constructor
      · intro described
        cases described with
        | char _ described =>
            obtain ⟨rest, rfl, left⟩ := ih.mp described
            exact ⟨rest, rfl, left⟩
      · rintro ⟨rest, rfl, described⟩
        exact .char c (ih.mpr ⟨rest, rfl, described⟩)

/-- A plain text between two `%` matches the texts it occurs in. -/
theorem likeMatch_contained {needle : List Char} (plain : ∀ c ∈ needle, isPlain c = true)
    (text : List Char) :
    (likeTokens ('%' :: needle ++ ['%'])).map (likeMatch · text) =
      some (decide (needle <:+: text)) := by
  have read : likeTokens ('%' :: needle ++ ['%']) =
      some (.any :: (needle.map .char ++ [.any])) := by
    have inner := likeTokens_append plain ['%']
    rw [List.cons_append, likeTokens, inner]
    rfl
  rw [read, Option.map_some, Option.some_inj, Bool.eq_iff_iff, likeMatch_iff, decide_eq_true_eq]
  constructor
  · intro described
    cases described with
    | @any _ before rest described =>
        obtain ⟨after, rfl, -⟩ := described_chars.mp described
        exact ⟨before, after, List.append_assoc _ _ _⟩
  · rintro ⟨before, after, rfl⟩
    rw [List.append_assoc]
    refine .any before (described_chars.mpr ⟨after, rfl, ?_⟩)
    have all : Described [.any] (after ++ []) := .any after .nil
    rwa [List.append_nil] at all

end DealFlow.Lib
