import RecordSql.Session.Settings
import Mathlib.Data.String.Basic

/-!
# Statements cut short in the log

A text that is too long for the log is cut in front of the character that crosses the limit. The
place to cut at can be looked for byte by byte, from the limit backwards, as `Settings.cut?` does:
the search never passes the beginning of the text, and the place that it ends at never lies inside a
character. Both come of one fact about `LongestFront`: if the limit is no place between two
characters, the longest front within it is the longest within one byte less.
-/

set_option autoImplicit false

namespace RecordSql

/-! ## The longest front -/

/-- The longest front of a text, in whole characters, that takes at most a number of bytes. -/
structure LongestFront (limit : Nat) (text front : String) : Prop where
  /-- The text begins with it. -/
  begins : ∃ rest, text = front ++ rest
  /-- It keeps to the limit. -/
  fits : front.utf8ByteSize ≤ limit
  /-- It begins with every front that keeps to the limit. -/
  longest : ∀ other rest, text = other ++ rest → other.utf8ByteSize ≤ limit →
    ∃ more, front = other ++ more

/-- A text can be cut at a place exactly if it has a front of that many bytes. -/
theorem isBorder_iff {text : String} {place : Nat} :
    IsBorder text place ↔ ∃ front rest, text = front ++ rest ∧ front.utf8ByteSize = place := by
  rw [IsBorder, String.Pos.Raw.isValid_iff_exists_append]
  constructor
  · rintro ⟨front, rest, htext, hplace⟩
    exact ⟨front, rest, htext, (congrArg String.Pos.Raw.byteIdx hplace).symm⟩
  · rintro ⟨front, rest, htext, rfl⟩
    exact ⟨front, rest, htext, rfl⟩

namespace LongestFront

variable {limit : Nat} {text front : String}

/-- The longest front ends at a place where the text can be cut. -/
theorem isBorder (h : LongestFront limit text front) : IsBorder text front.utf8ByteSize := by
  obtain ⟨rest, htext⟩ := h.begins
  exact isBorder_iff.2 ⟨front, rest, htext, rfl⟩

/-- A front that ends at the limit is the longest. -/
theorem size_of_isBorder (h : LongestFront limit text front) (hborder : IsBorder text limit) :
    front.utf8ByteSize = limit := by
  obtain ⟨other, rest, htext, hsize⟩ := isBorder_iff.1 hborder
  obtain ⟨more, hmore⟩ := h.longest other rest htext (Nat.le_of_eq hsize)
  have hsum : front.utf8ByteSize = other.utf8ByteSize + more.utf8ByteSize := by
    rw [hmore, String.utf8ByteSize_append]
  have hfits := h.fits
  omega

/-- If no front ends at the limit, the longest one keeps to one byte less. -/
theorem back (h : LongestFront (limit + 1) text front) (hborder : ¬ IsBorder text (limit + 1)) :
    LongestFront limit text front := by
  have hne : front.utf8ByteSize ≠ limit + 1 := by
    intro hsize
    exact hborder (hsize ▸ h.isBorder)
  have hfits := h.fits
  refine ⟨h.begins, by omega, ?_⟩
  intro other rest htext hother
  exact h.longest other rest htext (by omega)

/-- Nothing is left of a text whose first character does not keep to the limit. -/
theorem eq_empty_iff (h : LongestFront limit text front) :
    front = "" ↔ ∀ c ∈ text.toList.head?, limit < c.utf8Size := by
  obtain ⟨rest, htext⟩ := h.begins
  constructor
  · rintro rfl c hc
    obtain ⟨cs, hcs⟩ := List.head?_eq_some_iff.1 hc
    have hsplit : text = String.ofList [c] ++ String.ofList cs := by
      rw [← String.toList_inj, hcs]
      simp
    by_contra hfits
    have hsize : (String.ofList [c]).utf8ByteSize = c.utf8Size := by simp
    obtain ⟨more, hmore⟩ := h.longest _ _ hsplit (by omega)
    have hempty := congrArg String.toList hmore
    simp at hempty
  · intro hfirst
    cases hcs : front.toList with
    | nil => exact String.toList_inj.1 hcs
    | cons c cs =>
      have hlong : limit < c.utf8Size := by
        apply hfirst
        rw [htext, String.toList_append, hcs]
        rfl
      have hsize : front.utf8ByteSize = c.utf8Size + String.utf8Len cs := by
        rw [← String.ofList_toList (s := front), hcs, String.utf8ByteSize_ofList,
          String.utf8Len_cons]
        omega
      have hfits := h.fits
      omega

end LongestFront

namespace Settings

/-! ## Taking characters -/

/-- The first characters of a text that fit are a front of it. -/
theorem takeBytes_isPrefix (budget : Nat) (cs : List Char) : takeBytes budget cs <+: cs := by
  induction cs generalizing budget with
  | nil => exact List.prefix_rfl
  | cons c cs ih =>
    rw [takeBytes]
    split
    · exact List.cons_prefix_cons.2 ⟨rfl, ih (budget - c.utf8Size)⟩
    · exact List.nil_prefix

/-- They fit. -/
theorem utf8Len_takeBytes_le (budget : Nat) (cs : List Char) :
    String.utf8Len (takeBytes budget cs) ≤ budget := by
  induction cs generalizing budget with
  | nil => exact Nat.zero_le budget
  | cons c cs ih =>
    rw [takeBytes]
    split
    · have hrest := ih (budget - c.utf8Size)
      rw [String.utf8Len_cons]
      omega
    · exact Nat.zero_le budget

/-- No other front that fits is longer. -/
theorem prefix_takeBytes {budget : Nat} {front cs : List Char} (h : front <+: cs)
    (fits : String.utf8Len front ≤ budget) : front <+: takeBytes budget cs := by
  induction cs generalizing budget front with
  | nil => exact h
  | cons c cs ih =>
    cases front with
    | nil => exact List.nil_prefix
    | cons d front =>
      obtain ⟨rfl, hfront⟩ := List.cons_prefix_cons.1 h
      rw [String.utf8Len_cons] at fits
      rw [takeBytes, if_pos (by omega)]
      exact List.cons_prefix_cons.2 ⟨rfl, ih hfront (by omega)⟩

/-- What is left out begins with a character that does not keep to the limit, and no character
takes more than four bytes. -/
theorem takeBytes_tight (budget : Nat) (cs : List Char) :
    takeBytes budget cs = cs ∨ budget ≤ String.utf8Len (takeBytes budget cs) + 3 := by
  induction cs generalizing budget with
  | nil => exact .inl rfl
  | cons c cs ih =>
    rw [takeBytes]
    split
    · obtain hall | hmost := ih (budget - c.utf8Size)
      · rw [hall]
        exact .inl rfl
      · rw [String.utf8Len_cons]
        exact .inr (by omega)
    · have hsize := c.utf8Size_le_four
      exact .inr (by omega)

/-- What a text of the first characters that fit is: the longest front. -/
theorem longestFront_takeBytes (limit : Nat) (text : String) :
    LongestFront limit text (String.ofList (takeBytes limit text.toList)) := by
  refine ⟨?begins, ?fits, ?longest⟩
  case begins =>
    obtain ⟨rest, hrest⟩ := takeBytes_isPrefix limit text.toList
    refine ⟨String.ofList rest, ?_⟩
    rw [← String.ofList_append, hrest, String.ofList_toList]
  case fits =>
    rw [String.utf8ByteSize_ofList]
    exact utf8Len_takeBytes_le limit text.toList
  case longest =>
    rintro other rest rfl hother
    rw [← String.ofList_toList (s := other), String.utf8ByteSize_ofList] at hother
    obtain ⟨more, hmore⟩ :=
      prefix_takeBytes (String.toList_append ▸ List.prefix_append _ _) hother
    refine ⟨String.ofList more, ?_⟩
    rw [← hmore, String.ofList_append, String.ofList_toList]

/-! ## Looking for the place to cut at -/

/-- The search ends where the longest front ends. -/
theorem lastBorder?_eq {limit : Nat} {text front : String} (h : LongestFront limit text front) :
    lastBorder? text limit = some front.utf8ByteSize := by
  induction limit with
  | zero =>
    have hsize : front.utf8ByteSize = 0 := Nat.le_zero.1 h.fits
    rw [lastBorder?, if_pos (hsize ▸ h.isBorder), hsize]
  | succ limit ih =>
    rw [lastBorder?]
    split
    · rename_i hborder
      rw [h.size_of_isBorder hborder]
    · rename_i hborder
      exact ih (h.back hborder)

/-- Cutting a text where a front ends gives this front. -/
theorem front?_eq {text front rest : String} (h : text = front ++ rest) :
    front? text front.utf8ByteSize = some front := by
  have hvalid : String.Pos.Raw.IsValid text ⟨front.utf8ByteSize⟩ :=
    isBorder_iff.2 ⟨front, rest, h, rfl⟩
  rw [front?, dif_pos hvalid, Option.some.injEq]
  exact String.copy_sliceTo_eq_iff_exists_splits.2 ⟨rest, h, rfl⟩

/-- The search for the place to cut at comes to what the log shows. -/
theorem cut?_eq (settings : Settings) (sql : String) :
    settings.cut? sql = some (settings.shorten sql) := by
  unfold cut? shorten
  cases settings.maxSqlLength with
  | none => rfl
  | some limit =>
    by_cases hlong : limit < sql.utf8ByteSize
    · have hfront := longestFront_takeBytes limit sql
      obtain ⟨rest, hrest⟩ := hfront.begins
      simp only [if_pos hlong, if_neg (Nat.not_le.2 hlong), lastBorder?_eq hfront, front?_eq hrest,
        Option.bind_eq_bind, Option.bind_some, String.ofList_append]
      rfl
    · simp only [if_neg hlong, if_pos (Nat.not_lt.1 hlong)]

/-- The log shows a text as it is if there is no limit or the text keeps to it. Else it shows the
longest front of whole characters that does, and three points; the front is at most three bytes
shorter than the limit, and empty only if the first character does not keep to it. Looking for the
place to cut at from the limit backwards comes to the same: the search neither passes the beginning
nor ends inside a character. -/
theorem shorten_safe_and_tight (settings : Settings) (sql : String) :
    settings.cut? sql = some (settings.shorten sql)
      ∧ (settings.maxSqlLength = none → settings.shorten sql = sql)
      ∧ ∀ limit, settings.maxSqlLength = some limit →
        (sql.utf8ByteSize ≤ limit → settings.shorten sql = sql)
          ∧ (limit < sql.utf8ByteSize → ∃ front, LongestFront limit sql front
            ∧ settings.shorten sql = front ++ "..."
            ∧ limit ≤ front.utf8ByteSize + 3
            ∧ (front = "" ↔ ∀ c ∈ sql.toList.head?, limit < c.utf8Size)) := by
  refine ⟨settings.cut?_eq sql, ?unlimited, ?limited⟩
  case unlimited =>
    intro hlimit
    rw [shorten, hlimit]
  case limited =>
    intro limit hlimit
    refine ⟨?short, ?long⟩
    case short =>
      intro hshort
      rw [shorten, hlimit]
      exact if_pos hshort
    case long =>
      intro hlong
      have hfront := longestFront_takeBytes limit sql
      refine ⟨_, hfront, ?_, ?_, hfront.eq_empty_iff⟩
      · rw [shorten, hlimit]
        simp only [if_neg (Nat.not_le.2 hlong), String.ofList_append]
      · obtain hall | htight := takeBytes_tight limit sql.toList
        · have hfits := hfront.fits
          rw [hall, String.ofList_toList] at hfits
          omega
        · rw [String.utf8ByteSize_ofList]
          exact htight

/-- A limit inside a character of two bytes, a text that keeps to it, and no limit. -/
theorem shorten_safe_and_tight_note :
    let limited : Settings := { standard with maxSqlLength := some 5 }
    let unlimited : Settings := { standard with maxSqlLength := none }
    5 < "abcdé".utf8ByteSize ∧ limited.cut? "abcdé" = some "abcd..."
      ∧ (∃ front, LongestFront 5 "abcdé" front ∧ limited.shorten "abcdé" = front ++ "..."
        ∧ 5 ≤ front.utf8ByteSize + 3)
      ∧ "abcé".utf8ByteSize ≤ 5 ∧ limited.shorten "abcé" = "abcé"
      ∧ unlimited.shorten "abcdé" = "abcdé" := by
  intro limited unlimited
  have hlong : 5 < "abcdé".utf8ByteSize := by decide
  have hshort : "abcé".utf8ByteSize ≤ 5 := by decide
  obtain ⟨hcut, -, hlimited⟩ := limited.shorten_safe_and_tight "abcdé"
  obtain ⟨front, hfront, hshown, htight, -⟩ := (hlimited 5 rfl).2 hlong
  obtain ⟨-, -, hkept⟩ := limited.shorten_safe_and_tight "abcé"
  obtain ⟨-, hwhole, -⟩ := unlimited.shorten_safe_and_tight "abcdé"
  exact ⟨hlong, hcut, ⟨front, hfront, hshown, htight⟩, hshort, (hkept 5 rfl).1 hshort, hwhole rfl⟩

end Settings

end RecordSql
