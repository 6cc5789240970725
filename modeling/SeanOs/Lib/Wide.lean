import Mathlib

/-! Texts of code points: those of characters, and those that may hold surrogates as well. -/

/-- Whether a code point is a surrogate that a pair starts with. -/
def isHigh (point : ℕ) : Bool := 0xD800 ≤ point ∧ point < 0xDC00

/-- Whether a code point is a surrogate that a pair ends with. -/
def isLow (point : ℕ) : Bool := 0xDC00 ≤ point ∧ point < 0xE000

/-- A kind of texts, by the code points its texts hold. -/
class CodePoints (τ : Type) where
  /-- The code points of a text. -/
  points : τ → List ℕ
  /-- The text that holds some code points, where there is one. -/
  ofPoints : List ℕ → Option τ
  bounded : ∀ text, ∀ point ∈ points text, point < 0x110000
  ofPoints_points : ∀ text, ofPoints (points text) = some text

/-- A text of any code points. -/
@[ext]
structure Wide where
  points : List ℕ
  bounded : ∀ point ∈ points, point < 0x110000
  deriving DecidableEq

namespace Wide

/-- Texts are ordered as their code points are, from the first one on. -/
instance : LinearOrder Wide :=
  LinearOrder.lift' points fun _ _ same => Wide.ext same

/-- The texts of any code points. -/
instance : CodePoints Wide where
  points := points
  ofPoints listed :=
    if bounded : ∀ point ∈ listed, point < 0x110000 then some ⟨listed, bounded⟩ else none
  bounded := bounded
  ofPoints_points text := dif_pos text.bounded

/-- A character is a code point. -/
theorem toNat_lt (character : Char) : character.toNat < 0x110000 := by
  -- The valid code points are bounded, whichever of the two ranges they are in.
  have valid := character.valid
  rw [UInt32.isValidChar, Nat.isValidChar] at valid
  show character.val.toNat < 0x110000
  omega

/-- A text of characters as one of code points. -/
def of (text : String) : Wide :=
  ⟨text.toList.map Char.toNat, fun _ there => by
    obtain ⟨character, -, rfl⟩ := List.mem_map.mp there
    exact toNat_lt character⟩

/-- A text of characters stands for the text of its code points. -/
instance : Coe String Wide := ⟨of⟩

/-- A text of characters, with a mark in the place of every surrogate. -/
def marked (mark : Char) (text : Wide) : String :=
  String.ofList (text.points.map fun point =>
    if isHigh point || isLow point then mark else Char.ofNat point)

/-- Texts of characters with the same code points are the same. -/
theorem of_injective : Function.Injective of := by
  intro one two same
  -- A character is told from its code point.
  have points := congrArg Wide.points same
  exact String.toList_inj.mp (List.map_injective_iff.mpr (fun _ _ => Char.toNat_inj.mp) points)

end Wide

/-- The texts of characters, which hold no surrogates. -/
instance : CodePoints String where
  points text := text.toList.map Char.toNat
  ofPoints listed :=
    if ∀ point ∈ listed, point.isValidChar then some (String.ofList (listed.map Char.ofNat))
    else none
  bounded := fun text => (Wide.of text).bounded
  ofPoints_points text := by
    have valid : ∀ point ∈ text.toList.map Char.toNat, point.isValidChar := by
      intro point there
      obtain ⟨character, -, rfl⟩ := List.mem_map.mp there
      exact character.valid
    rw [if_pos valid, List.map_map]
    -- Each character is the one of its code point.
    have own : Char.ofNat ∘ Char.toNat = id := funext Char.ofNat_toNat
    rw [own, List.map_id, String.ofList_toList]

/-- No two code points stand side by side that are read as one, as a pair of surrogates is. -/
def Unpaired (points : List ℕ) : Prop :=
  points.IsChain fun one two => ¬(isHigh one = true ∧ isLow two = true)

/-- A character is no surrogate. -/
theorem isHigh_toNat (character : Char) : isHigh character.toNat = false := by
  -- The valid code points leave the surrogates out.
  have valid := character.valid
  rw [UInt32.isValidChar, Nat.isValidChar] at valid
  have high : ¬(0xD800 ≤ character.val.toNat ∧ character.val.toNat < 0xDC00) := by omega
  exact decide_eq_false high

/-- A character is no surrogate that ends a pair. -/
theorem isLow_toNat (character : Char) : isLow character.toNat = false := by
  -- The valid code points leave the surrogates out.
  have valid := character.valid
  rw [UInt32.isValidChar, Nat.isValidChar] at valid
  have low : ¬(0xDC00 ≤ character.val.toNat ∧ character.val.toNat < 0xE000) := by omega
  exact decide_eq_false low

/-- A text of characters has no surrogates, and so no pair of them. -/
theorem unpaired_string (text : String) : Unpaired (CodePoints.points text) := by
  show (text.toList.map Char.toNat).IsChain _
  -- The first of two neighbours is a character already.
  induction text.toList with
  | nil => exact .nil
  | cons first rest ih =>
    cases rest with
    | nil => exact .singleton _
    | cons next rest =>
      refine List.isChain_cons_cons.mpr ⟨fun pair => ?_, ih⟩
      rw [isHigh_toNat] at pair
      cases pair.1

namespace Wide

/-- Nothing is marked in a text of characters. -/
theorem marked_of (mark : Char) (text : String) : (of text).marked mark = text := by
  -- No character is a surrogate, so each is kept.
  have own : (fun point => if isHigh point || isLow point then mark else Char.ofNat point) ∘
      Char.toNat = id := by
    funext character
    show (if isHigh character.toNat || isLow character.toNat then mark
      else Char.ofNat character.toNat) = character
    rw [isHigh_toNat, isLow_toNat, Bool.or_false, if_neg Bool.false_ne_true, Char.ofNat_toNat]
  rw [marked, of, List.map_map, own, List.map_id, String.ofList_toList]

/-- A text in which there is no mark has no surrogates. -/
theorem of_marked {mark : Char} {text : Wide} (absent : mark ∉ (text.marked mark).toList) :
    of (text.marked mark) = text := by
  rw [marked, String.toList_ofList] at absent
  refine Wide.ext ?_
  show (text.marked mark).toList.map Char.toNat = text.points
  rw [marked, String.toList_ofList, List.map_map]
  refine (List.map_congr_left fun point there => ?_).trans (List.map_id _)
  show Char.toNat (if isHigh point || isLow point then mark else Char.ofNat point) = point
  -- A surrogate would have left its mark.
  cases surrogate : isHigh point || isLow point with
  | true =>
    exact absurd (List.mem_map.mpr ⟨point, there, by rw [surrogate, if_pos rfl]⟩) absent
  | false =>
    rw [Bool.or_eq_false_iff, isHigh, isLow, decide_eq_false_iff_not, decide_eq_false_iff_not]
      at surrogate
    have bounded := text.bounded point there
    rw [if_neg Bool.false_ne_true, Char.toNat_ofNat, if_pos]
    show point < 0xD800 ∨ 0xDFFF < point ∧ point < 0x110000
    omega

end Wide

/-- The code point that two surrogates stand for together. -/
def pairPoint (high low : ℕ) : ℕ := 0x10000 + (high - 0xD800) * 0x400 + (low - 0xDC00)

/-- Code points with every pair of surrogates as the one it is read as. -/
def paired : List ℕ → List ℕ
  | high :: low :: rest =>
    if isHigh high = true ∧ isLow low = true then pairPoint high low :: paired rest
    else high :: paired (low :: rest)
  | points => points

/-- A pair stands for a code point beyond the first plane. -/
theorem pairPoint_bounds {high low : ℕ} (pair : isHigh high = true ∧ isLow low = true) :
    0x10000 ≤ pairPoint high low ∧ pairPoint high low < 0x110000 := by
  -- Both halves are within their blocks of a thousand and twenty-four.
  have first := of_decide_eq_true pair.1
  have second := of_decide_eq_true pair.2
  unfold pairPoint
  omega

/-- Nothing is left of a pair that a surrogate before or behind it could make up another one with. -/
theorem pairPoint_apart {high low : ℕ} (pair : isHigh high = true ∧ isLow low = true) :
    isHigh (pairPoint high low) = false ∧ isLow (pairPoint high low) = false := by
  have bounds := pairPoint_bounds pair
  exact ⟨decide_eq_false (by omega), decide_eq_false (by omega)⟩

/-- A pair that is read as one stays within the bound of code points. -/
theorem paired_bounded {points : List ℕ} (bounded : ∀ point ∈ points, point < 0x110000) :
    ∀ point ∈ paired points, point < 0x110000 := by
  -- Only the code point that a pair is read as is new.
  induction points using paired.induct with
  | case1 high low rest pair ih =>
    rw [paired, if_pos pair]
    simp only [List.forall_mem_cons] at bounded
    exact List.forall_mem_cons.mpr ⟨(pairPoint_bounds pair).2, ih bounded.2.2⟩
  | case2 high low rest apart ih =>
    rw [paired, if_neg apart]
    rw [List.forall_mem_cons] at bounded
    exact List.forall_mem_cons.mpr ⟨bounded.1, ih bounded.2⟩
  | case3 points short => rwa [paired.eq_2 points short]

/-- A low surrogate that no other one stands before stays in front. -/
theorem head_paired {points : List ℕ} : ∀ first ∈ (paired points).head?, isLow first = true →
    points.head? = some first := by
  -- What a pair is read as is no surrogate, and any other first code point is kept.
  induction points using paired.induct with
  | case1 high low rest pair _ =>
    rw [paired, if_pos pair]
    rintro first there lower
    rw [List.head?_cons, Option.mem_some] at there
    rw [← there, (pairPoint_apart pair).2] at lower
    cases lower
  | case2 high low rest apart _ =>
    rw [paired, if_neg apart]
    exact fun first there _ => there
  | case3 points short =>
    rw [paired.eq_2 points short]
    exact fun first there _ => there

/-- No pair is left where every pair was read as one. -/
theorem unpaired_paired (points : List ℕ) : Unpaired (paired points) := by
  -- A code point in front starts no pair with what the next one became.
  have behind {high : ℕ} {points : List ℕ} (ih : Unpaired (paired points))
      (apart : ∀ low ∈ points.head?, ¬(isHigh high = true ∧ isLow low = true)) :
      Unpaired (high :: paired points) := by
    refine List.isChain_cons.mpr ⟨fun low there pair => ?_, ih⟩
    exact apart low (head_paired low there pair.2) pair
  induction points using paired.induct with
  | case1 high low rest pair ih =>
    rw [paired, if_pos pair]
    refine behind ih fun low _ both => ?_
    rw [(pairPoint_apart pair).1] at both
    cases both.1
  | case2 high low rest apart ih =>
    rw [paired, if_neg apart]
    refine behind ih fun next there both => apart ?_
    rw [List.head?_cons, Option.mem_some] at there
    exact there ▸ both
  | case3 points short =>
    rw [paired.eq_2 points short]
    match points, short with
    | [], _ => exact .nil
    | [_], _ => exact .singleton _
    | high :: low :: rest, short => exact absurd rfl (short high low rest)

/-- Code points among which there is no pair stay as they are. -/
theorem paired_of_unpaired {points : List ℕ} (unpaired : Unpaired points) :
    paired points = points := by
  -- There is no pair, so only the case in which none stands in front is met.
  induction points using paired.induct with
  | case1 high low rest pair _ => exact absurd pair (List.isChain_cons_cons.mp unpaired).1
  | case2 high low rest apart ih =>
    rw [paired, if_neg apart, ih (List.isChain_cons_cons.mp unpaired).2]
  | case3 points short => exact paired.eq_2 points short

/-- Where no code point is beyond the first plane, no pair was made up. -/
theorem eq_paired_of_small {points : List ℕ} (small : ∀ point ∈ paired points, point < 0x10000) :
    points = paired points := by
  -- A pair that was read as one would have left a code point beyond the plane.
  induction points using paired.induct with
  | case1 high low rest pair _ =>
    rw [paired, if_pos pair, List.forall_mem_cons] at small
    exact absurd small.1 (not_lt.mpr (pairPoint_bounds pair).1)
  | case2 high low rest apart ih =>
    rw [paired, if_neg apart, List.forall_mem_cons] at small
    rw [paired, if_neg apart, ← ih small.2]
  | case3 points short => exact (paired.eq_2 points short).symm

namespace Wide

/-- A text with every pair of surrogates as the code point it is read as. -/
def joined (text : Wide) : Wide := ⟨paired text.points, paired_bounded text.bounded⟩

/-- No pair is left once every pair is joined. -/
theorem unpaired_joined (text : Wide) : Unpaired (CodePoints.points text.joined) :=
  unpaired_paired text.points

/-- A text without pairs is joined already. -/
theorem joined_of_unpaired {text : Wide} (unpaired : Unpaired text.points) : text.joined = text :=
  Wide.ext (paired_of_unpaired unpaired)

/-- A text of characters is joined already. -/
theorem joined_of (text : String) : (of text).joined = of text :=
  joined_of_unpaired (unpaired_string text)

/-- A text that is read as one of the first plane has no pairs. -/
theorem eq_of_joined {text : Wide} {key : String} (plane : ∀ c ∈ key.toList, c.toNat < 0x10000)
    (same : text.joined = of key) : text = of key := by
  -- The code points of the key are small, so none of them was a pair.
  have points : paired text.points = key.toList.map Char.toNat := congrArg Wide.points same
  have small : ∀ point ∈ paired text.points, point < 0x10000 := by
    rw [points]
    intro point there
    obtain ⟨character, inside, rfl⟩ := List.mem_map.mp there
    exact plane character inside
  exact Wide.ext ((eq_paired_of_small small).trans points)

/-- The text of characters that a text is, where it has no surrogates. -/
def narrow? (text : Wide) : Option String := CodePoints.ofPoints text.points

/-- A text of characters is its own. -/
theorem narrow?_of (text : String) : (of text).narrow? = some text :=
  CodePoints.ofPoints_points text

/-- A text that is one of characters is the text of their code points. -/
theorem of_narrow? {text : Wide} {own : String} (narrow : text.narrow? = some own) :
    text = of own := by
  have written : (if ∀ point ∈ text.points, point.isValidChar then
      some (String.ofList (text.points.map Char.ofNat)) else none) = some own := narrow
  split at written
  -- Each code point is the one of the character it was turned into.
  next valid =>
    refine Wide.ext ?_
    obtain rfl := Option.some.inj written
    show text.points = (String.ofList (text.points.map Char.ofNat)).toList.map Char.toNat
    rw [String.toList_ofList, List.map_map]
    refine ((List.map_congr_left fun point there => ?_).trans (List.map_id _)).symm
    show (Char.ofNat point).toNat = point
    rw [Char.toNat_ofNat, if_pos (valid point there)]
  next => cases written

end Wide
