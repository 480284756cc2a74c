/-
Why a name is rejected.

Several things may be wrong with a name at once, in any combination and at any places: too many
colons, too many periods, a word in front of the colon that is no target, a word behind the period
that is no key.  Only one of them is reported.  Which one it is must be known, for the code of
the diagnostic depends on it.

What can be wrong is said here for each rejection on its own: a rejection is justified if what it
says of its token is so, whatever else is wrong with it, and nothing is looked for in an order.  So
a name may have several justified rejections.  They differ in rank, and the parser gives the
one of the lowest rank.  That it does so is shown by going along with it: whenever it gets past a
point, no rejection of that rank is justified.
-/
import Listeners.Proofs.Separator
import Listeners.Proofs.Specifier

namespace Listeners

/-- What stands behind the first colon of a name, or the whole name if it has no colon. -/
inductive Specifier.IsRest (token : String) : String → Prop where
  | whole (h : ':' ∉ token.toList) : IsRest token token
  | behind {word rest : String} (h : Text.IsCut ':' token word rest) : IsRest token rest

namespace Rejection

/-- What the rejection says of its token is so. -/
def IsJustified : Rejection → Prop
  | severalColons token => 2 ≤ token.toList.count ':'
  | unknownTarget word token =>
    token.toList.count ':' = 1 ∧ ∃ before rest, Text.IsCut ':' token before rest ∧
      word = Specifier.canonical before ∧ ∀ target : Target, target.name ≠ word
  | severalPeriods token => ∃ rest, Specifier.IsRest token rest ∧ 2 ≤ rest.toList.count '.'
  | unknownKey word token => ∃ rest, Specifier.IsRest token rest ∧ rest.toList.count '.' = 1 ∧
      ∃ event after, Text.IsCut '.' rest event after ∧
        word = Specifier.canonical after ∧ ∀ key : KeyFilter, key.name ≠ word

/-- How early a rejection is given. -/
def rank : Rejection → Nat
  | severalColons _ => 0
  | unknownTarget .. => 1
  | severalPeriods _ => 2
  | unknownKey .. => 3

end Rejection

/-! ### Each rank once -/

theorem Specifier.IsRest.unique {token rest other : String} (h : IsRest token rest)
    (hother : IsRest token other) : other = rest := by
  cases h with
  | whole hcolon =>
      cases hother with
      | whole _ => rfl
      | behind hcut => exact absurd hcut.mem hcolon
  | behind hcut =>
      cases hother with
      | whole hcolon => exact absurd hcut.mem hcolon
      | behind hother => exact (hcut.unique hother).2

/-- A token has at most one justified rejection of each rank. -/
theorem Rejection.IsJustified.eq_of_rank_eq {rejection other : Rejection}
    (h : rejection.IsJustified) (hother : other.IsJustified)
    (htoken : other.token = rejection.token) (hrank : other.rank = rejection.rank) :
    other = rejection := by
  -- Rejections of different kinds differ in rank.
  cases rejection <;> cases other <;> try (simp [rank] at hrank; done)
  all_goals obtain rfl := htoken
  case severalColons.severalColons => rfl
  case severalPeriods.severalPeriods => rfl
  case unknownTarget.unknownTarget =>
    obtain ⟨-, before, rest, hcut, rfl, -⟩ := h
    obtain ⟨-, before', rest', hcut', rfl, -⟩ := hother
    obtain ⟨rfl, -⟩ := hcut.unique hcut'
    rfl
  case unknownKey.unknownKey =>
    obtain ⟨rest, hrest, -, event, after, hcut, rfl, -⟩ := h
    obtain ⟨rest', hrest', -, event', after', hcut', rfl, -⟩ := hother
    obtain rfl := hrest.unique hrest'
    obtain ⟨-, rfl⟩ := hcut.unique hcut'
    rfl

namespace Specifier

/-! ### What the parser has got past -/

section

variable {token rest event : String} {before after : Option String}

theorem not_severalColons_of_split (h : Text.split ':' token = before.toList ++ [rest]) :
    ¬(Rejection.severalColons token).IsJustified := by
  intro hcolons
  have hcount : 2 ≤ token.toList.count ':' := hcolons
  have hlength := Text.length_split ':' token
  rw [h] at hlength
  cases before <;> simp at hlength <;> omega

theorem isRest_of_split (h : Text.split ':' token = before.toList ++ [rest]) :
    IsRest token rest := by
  cases before with
  | none =>
      obtain ⟨hcolon, rfl⟩ := Text.split_eq_singleton_iff.mp h
      exact .whole hcolon
  | some before => exact .behind (Text.split_eq_pair_iff.mp h).2

theorem not_unknownTarget_of_split (h : Text.split ':' token = before.toList ++ [rest])
    {target : Option Target} (htarget : target.map Target.name = before.map canonical)
    (word : String) : ¬(Rejection.unknownTarget word token).IsJustified := by
  rintro ⟨-, before', rest', hcut, rfl, hunknown⟩
  cases before with
  | none => exact (Text.split_eq_singleton_iff.mp h).1 hcut.mem
  | some before =>
      obtain ⟨rfl, -⟩ := (Text.split_eq_pair_iff.mp h).2.unique hcut
      obtain ⟨target, -, hname⟩ := Option.map_eq_some_iff.mp htarget
      exact hunknown target hname

theorem not_severalPeriods_of_split (hrest : IsRest token rest)
    (h : Text.split '.' rest = event :: after.toList) :
    ¬(Rejection.severalPeriods token).IsJustified := by
  rintro ⟨rest', hrest', hcount⟩
  obtain rfl := hrest.unique hrest'
  have hlength := Text.length_split '.' rest'
  rw [h] at hlength
  cases after <;> simp at hlength <;> omega

theorem not_unknownKey_of_split (hrest : IsRest token rest)
    (h : Text.split '.' rest = event :: after.toList) {key : Option KeyFilter}
    (hkey : key.map KeyFilter.name = after.map canonical) (word : String) :
    ¬(Rejection.unknownKey word token).IsJustified := by
  rintro ⟨rest', hrest', -, event', after', hcut, rfl, hunknown⟩
  obtain rfl := hrest.unique hrest'
  cases after with
  | none => exact (Text.split_eq_singleton_iff.mp h).1 hcut.mem
  | some after =>
      obtain ⟨-, rfl⟩ := (Text.split_eq_pair_iff.mp h).2.unique hcut
      obtain ⟨key, -, hname⟩ := Option.map_eq_some_iff.mp hkey
      exact hunknown key hname

/-! So a justified rejection of the token comes after the points that the parser has got past. -/

variable {rejection : Rejection} (htoken : rejection.token = token)
  (hjustified : rejection.IsJustified)
include htoken hjustified

theorem zero_lt_rank_of_split (h : Text.split ':' token = before.toList ++ [rest]) :
    0 < rejection.rank := by
  subst htoken
  cases rejection with
  | severalColons token => exact absurd hjustified (not_severalColons_of_split h)
  | unknownTarget | severalPeriods | unknownKey => simp [Rejection.rank]

theorem one_lt_rank_of_split (h : Text.split ':' token = before.toList ++ [rest])
    {target : Option Target} (htarget : target.map Target.name = before.map canonical) :
    1 < rejection.rank := by
  have hrank := zero_lt_rank_of_split htoken hjustified h
  subst htoken
  cases rejection with
  | unknownTarget word token =>
      exact absurd hjustified (not_unknownTarget_of_split h htarget word)
  | severalColons => simp [Rejection.rank] at hrank
  | severalPeriods | unknownKey => simp [Rejection.rank]

theorem two_lt_rank_of_split (h : Text.split ':' token = before.toList ++ [rest])
    {target : Option Target} (htarget : target.map Target.name = before.map canonical)
    (hperiods : Text.split '.' rest = event :: after.toList) : 2 < rejection.rank := by
  have hrank := one_lt_rank_of_split htoken hjustified h htarget
  subst htoken
  cases rejection with
  | severalPeriods token =>
      exact absurd hjustified (not_severalPeriods_of_split (isRest_of_split h) hperiods)
  | severalColons | unknownTarget => simp [Rejection.rank] at hrank
  | unknownKey => simp [Rejection.rank]

end

/-- Nothing is wrong with a name that is accepted. -/
theorem not_isJustified_of_parse {name : String} {specifier : Specifier}
    (h : parse name = .ok specifier) {rejection : Rejection}
    (htoken : rejection.token = Text.trim name) : ¬rejection.IsJustified := by
  intro hjustified
  obtain ⟨before, rest, hcolons, htarget, hrest⟩ := parse_eq_ok_iff.mp h
  obtain ⟨event, after, hperiods, hkey, -⟩ := parseEvent_eq_ok_iff.mp hrest
  have hrank := two_lt_rank_of_split htoken hjustified hcolons htarget hperiods
  cases rejection with
  | unknownKey word token =>
      rw [← htoken] at hcolons
      exact not_unknownKey_of_split (isRest_of_split hcolons) hperiods hkey word hjustified
  | severalColons | unknownTarget | severalPeriods => simp [Rejection.rank] at hrank

/-! ### What the parser stops at -/

/-- What stands behind the target is rejected for its periods or for its key. -/
theorem parseEvent_eq_error {token rest : String} {target : Option Target}
    {rejection : Rejection} (h : parseEvent token target rest = .error rejection) :
    (rejection = .severalPeriods token ∧ 2 ≤ rest.toList.count '.') ∨
      ∃ event key, Text.split '.' rest = [event, key] ∧
        rejection = .unknownKey (canonical key) token ∧
        ∀ filter : KeyFilter, filter.name ≠ canonical key := by
  have hlength := Text.length_split '.' rest
  unfold parseEvent at h
  rcases hsplit : Text.split '.' rest with _ | ⟨event, _ | ⟨key, _ | ⟨more, fields⟩⟩⟩
  · simp [hsplit] at hlength
  · simp [hsplit] at h
  · simp only [hsplit] at h
    split at h
    · cases h
    · next hunknown =>
      cases h
      exact Or.inr ⟨event, key, rfl, rfl, KeyFilter.ofName?_eq_none_iff.mp hunknown⟩
  · simp only [hsplit] at h
    cases h
    rw [hsplit] at hlength
    refine Or.inl ⟨rfl, ?_⟩
    simp only [List.length_cons] at hlength
    omega

/-- A name is rejected for its colons, or else for the word of its target, or else for what
stands behind the target. -/
theorem parse_eq_error {name : String} {rejection : Rejection}
    (h : parse name = .error rejection) :
    let token := Text.trim name
    (rejection = .severalColons token ∧ 2 ≤ token.toList.count ':') ∨
      (∃ before rest, Text.split ':' token = [before, rest] ∧
        rejection = .unknownTarget (canonical before) token ∧
        ∀ target : Target, target.name ≠ canonical before) ∨
      ∃ (before : Option String) (rest : String) (target : Option Target),
        Text.split ':' token = before.toList ++ [rest] ∧
        target.map Target.name = before.map canonical ∧
        parseEvent token target rest = .error rejection := by
  intro token
  have hlength := Text.length_split ':' token
  unfold parse at h
  rcases hsplit : Text.split ':' token with _ | ⟨before, _ | ⟨rest, _ | ⟨more, fields⟩⟩⟩
  · simp [hsplit] at hlength
  · simp only [token, hsplit] at h
    exact Or.inr (Or.inr ⟨none, before, none, rfl, rfl, h⟩)
  · simp only [token, hsplit] at h
    split at h
    · next target htarget =>
      have hname := Target.ofName?_eq_some_iff.mp htarget
      exact Or.inr (Or.inr ⟨some before, rest, some target, rfl, congrArg some hname, h⟩)
    · next hunknown =>
      cases h
      exact Or.inr (Or.inl ⟨before, rest, rfl, rfl, Target.ofName?_eq_none_iff.mp hunknown⟩)
  · simp only [token, hsplit] at h
    cases h
    rw [hsplit] at hlength
    refine Or.inl ⟨rfl, ?_⟩
    simp only [List.length_cons] at hlength
    omega

/-- The rejection of a name is justified, and no justified rejection comes before it. -/
theorem isJustified_of_parse {name : String} {rejection : Rejection}
    (h : parse name = .error rejection) :
    rejection.token = Text.trim name ∧ rejection.IsJustified ∧
      ∀ other : Rejection, other.token = Text.trim name → other.IsJustified →
        rejection.rank ≤ other.rank := by
  rcases parse_eq_error h with ⟨rfl, hcount⟩ | ⟨before, rest, hsplit, rfl, hunknown⟩ |
    ⟨before, rest, target, hsplit, htarget, hrest⟩
  · exact ⟨rfl, hcount, fun other _ _ => Nat.zero_le _⟩
  · obtain ⟨hcount, hcut⟩ := Text.split_eq_pair_iff.mp hsplit
    have hword : Text.split ':' (Text.trim name) = (some before).toList ++ [rest] := hsplit
    refine ⟨rfl, ⟨hcount, before, rest, hcut, rfl, hunknown⟩, fun other htoken hother => ?_⟩
    exact zero_lt_rank_of_split htoken hother hword
  · have hisRest := isRest_of_split hsplit
    rcases parseEvent_eq_error hrest with ⟨rfl, hcount⟩ | ⟨event, key, hperiod, rfl, hunknown⟩
    · refine ⟨rfl, ⟨rest, hisRest, hcount⟩, fun other htoken hother => ?_⟩
      exact one_lt_rank_of_split htoken hother hsplit htarget
    · obtain ⟨hcount, hcut⟩ := Text.split_eq_pair_iff.mp hperiod
      have hword : Text.split '.' rest = event :: (some key).toList := hperiod
      refine ⟨rfl, ⟨rest, hisRest, hcount, event, key, hcut, rfl, hunknown⟩,
        fun other htoken hother => ?_⟩
      exact two_lt_rank_of_split htoken hother hsplit htarget hword

/-- **The precedence of rejections.**  A name is rejected exactly if some rejection of it, without
the blanks around it, is justified, and it is rejected with the first of these: for two colons or
more in any case; else for one colon behind a word that is no target; else for two periods or more
in what stands behind the colon, if there is one; and else for one period there before a word that
is no key.  The words are compared, and reported, without blanks and in lowercase. -/
theorem parse_precedence (name : String) :
    let token := Text.trim name
    ((∃ rejection, parse name = .error rejection) ↔
        ∃ rejection : Rejection, rejection.token = token ∧ rejection.IsJustified) ∧
      ∀ rejection : Rejection, parse name = .error rejection ↔
        rejection.token = token ∧ rejection.IsJustified ∧
          ∀ other : Rejection, other.token = token → other.IsJustified →
            rejection.rank ≤ other.rank := by
  intro token
  have hrejected : ∀ rejection : Rejection, rejection.token = token → rejection.IsJustified →
      ∃ given, parse name = .error given := by
    intro rejection htoken hjustified
    cases hparse : parse name with
    | ok specifier => exact absurd hjustified (not_isJustified_of_parse hparse htoken)
    | error given => exact ⟨given, rfl⟩
  refine ⟨⟨?_, ?_⟩, fun rejection => ⟨isJustified_of_parse, ?_⟩⟩
  · rintro ⟨rejection, h⟩
    obtain ⟨htoken, hjustified, -⟩ := isJustified_of_parse h
    exact ⟨rejection, htoken, hjustified⟩
  · rintro ⟨rejection, htoken, hjustified⟩
    exact hrejected rejection htoken hjustified
  · rintro ⟨htoken, hjustified, hfirst⟩
    obtain ⟨given, hgiven⟩ := hrejected rejection htoken hjustified
    obtain ⟨htoken', hjustified', hfirst'⟩ := isJustified_of_parse hgiven
    have hrank : given.rank = rejection.rank :=
      Nat.le_antisymm (hfirst' rejection htoken hjustified) (hfirst given htoken' hjustified')
    rw [hgiven, hjustified.eq_of_rank_eq hjustified' (htoken'.trans htoken.symm) hrank]

/-- The word of the target is unknown and there are too many periods behind it, and only the first
is reported.  The period in front of the colon is not counted. -/
theorem parse_precedence_two_reasons :
    let token := "a.b:c.d.e"
    parse (" " ++ token) = .error (.unknownTarget "a.b" token) ∧
      (Rejection.unknownTarget "a.b" token).IsJustified ∧
      (Rejection.severalPeriods token).IsJustified ∧
      (Rejection.unknownTarget "a.b" token).rank ≤ (Rejection.severalPeriods token).rank := by
  intro token
  have hparse : parse (" " ++ token) = .error (.unknownTarget "a.b" token) := by decide
  have hcut : Text.IsCut ':' token "a.b" "c.d.e" := ⟨by decide, by decide⟩
  have hperiods : (Rejection.severalPeriods token).IsJustified :=
    ⟨"c.d.e", .behind hcut, by decide⟩
  obtain ⟨-, hfirst⟩ := parse_precedence (" " ++ token)
  obtain ⟨-, htarget, hleast⟩ := (hfirst _).mp hparse
  exact ⟨hparse, htarget, hperiods, hleast _ (by decide) hperiods⟩

end Specifier

end Listeners
