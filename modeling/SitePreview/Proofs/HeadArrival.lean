import SitePreview.Serving.RequestHead

namespace SitePreview

namespace RequestHead

/-- A line that has been read stays, and more octets go to the rest. -/
def LineRead.GoesOn (more : Bytes) : LineRead → LineRead → Prop
  | .waiting, _ => True
  | .overlong _, later => ∃ ended, later = .overlong ended
  | .line octets rest, later => later = .line octets (rest ++ more)

theorem readLine_goesOn (limit : Nat) (ended : Bool) (octets more : Bytes) :
    (readLine limit false octets).GoesOn more (readLine limit ended (octets ++ more)) := by
  have hsplit := List.takeWhile_append_dropWhile (p := (· ≠ newline)) (l := octets)
  cases hrest : octets.dropWhile (· ≠ newline) with
  | cons mark rest =>
    have hdrop : (octets ++ more).dropWhile (· ≠ newline) = mark :: (rest ++ more) := by
      simp only [List.dropWhile_append, hrest]
      rfl
    have hshort : (octets.takeWhile (· ≠ newline)).length ≠ octets.length := by
      rw [hrest] at hsplit
      have := congrArg List.length hsplit
      simp only [List.length_append, List.length_cons] at this
      omega
    have htake : (octets ++ more).takeWhile (· ≠ newline) = octets.takeWhile (· ≠ newline) := by
      rw [List.takeWhile_append, if_neg hshort]
    simp only [readLine, hrest, hdrop, htake]
    split
    · exact ⟨true, rfl⟩
    · rfl
  | nil =>
    rw [hrest, List.append_nil] at hsplit
    simp only [readLine, hrest, hsplit]
    split
    next hover =>
      have hlong : limit < ((octets ++ more).takeWhile (· ≠ newline)).length := by
        rw [List.takeWhile_append, if_pos (by rw [hsplit]), List.length_append]
        omega
      cases (octets ++ more).dropWhile (· ≠ newline) with
      | nil => exact ⟨false, if_pos hlong⟩
      | cons => exact ⟨true, if_pos hlong⟩
    · trivial

theorem readLine_ne_nil {limit : Nat} {octets rest : Bytes} :
    readLine limit false octets ≠ .line [] rest := by
  simp only [readLine]
  split <;> split <;> simp

theorem readLine_ended_ne_waiting (limit : Nat) (octets : Bytes) :
    readLine limit true octets ≠ .waiting := by
  simp only [readLine]
  split <;> split <;> simp

theorem readLine_eq_nil {limit : Nat} {octets rest : Bytes}
    (h : readLine limit true octets = .line [] rest) : octets = [] := by
  simp only [readLine] at h
  split at h
  · split at h <;> simp at h
  next hdrop =>
    split at h
    · simp at h
    · have hsplit := List.takeWhile_append_dropWhile (p := (· ≠ newline)) (l := octets)
      rw [hdrop, (LineRead.line.inj h).1] at hsplit
      exact hsplit.symm

end RequestHead

/-- What has come of a head stays, and more octets go to the rest. -/
def HeadRead.GoesOn (more : Bytes) : HeadRead → HeadRead → Prop
  | .waiting, _ => True
  | .silent, _ => False
  | .refused _, later => ∃ fault, later = .refused fault
  | .head found rest, later => later = .head found (rest ++ more)

namespace RequestHead

theorem readHeaders_goesOn (limit : Nat) (ended : Bool) (lines : Nat) (head : RequestHead)
    (octets more : Bytes) :
    (readHeaders limit false lines head octets).GoesOn more
      (readHeaders limit ended lines head (octets ++ more)) := by
  induction lines generalizing head octets with
  | zero => rfl
  | succ lines ih =>
    have hline := readLine_goesOn limit ended octets more
    unfold readHeaders
    cases hread : readLine limit false octets with
    | waiting => trivial
    | overlong found =>
      rw [hread] at hline
      obtain ⟨later, hlater⟩ := hline
      exact ⟨.overlongLine later, by rw [hlater]⟩
    | line line rest =>
      rw [hread] at hline
      have hlater : readLine limit ended (octets ++ more) = .line line (rest ++ more) := hline
      simp only [hlater]
      split
      · rfl
      · exact ih _ rest

theorem readHeaders_ended_ne_waiting (limit lines : Nat) (head : RequestHead) (octets : Bytes) :
    readHeaders limit true lines head octets ≠ .waiting := by
  induction lines generalizing head octets with
  | zero => simp [readHeaders]
  | succ lines ih =>
    unfold readHeaders
    split
    next h => exact absurd h (readLine_ended_ne_waiting limit octets)
    next => simp
    next =>
      split
      · simp
      · exact ih _ _

theorem readHeaders_ne_silent (limit : Nat) (ended : Bool) (lines : Nat) (head : RequestHead)
    (octets : Bytes) : readHeaders limit ended lines head octets ≠ .silent := by
  induction lines generalizing head octets with
  | zero => simp [readHeaders]
  | succ lines ih =>
    unfold readHeaders
    split
    · simp
    · simp
    · split
      · simp
      · exact ih _ _

theorem read_goesOn (limit : Nat) (ended : Bool) (octets more : Bytes) :
    (read limit false octets).GoesOn more (read limit ended (octets ++ more)) := by
  have hline := readLine_goesOn limit ended octets more
  unfold read
  cases hread : readLine limit false octets with
  | waiting => trivial
  | overlong found =>
    rw [hread] at hline
    obtain ⟨later, hlater⟩ := hline
    exact ⟨.overlongLine later, by rw [hlater]⟩
  | line line rest =>
    rw [hread] at hline
    have hlater : readLine limit ended (octets ++ more) = .line line (rest ++ more) := hline
    have hne : line ≠ [] := by
      rintro rfl
      exact readLine_ne_nil hread
    simp only [hlater, if_neg hne]
    split
    · exact ⟨_, rfl⟩
    · exact readHeaders_goesOn limit ended headerLineLimit _ rest more

theorem read_ended_ne_waiting (limit : Nat) (octets : Bytes) :
    read limit true octets ≠ .waiting := by
  unfold read
  split
  next h => exact absurd h (readLine_ended_ne_waiting limit octets)
  next => simp
  next =>
    split
    · simp
    · split
      · simp
      · exact readHeaders_ended_ne_waiting limit headerLineLimit _ _

theorem read_eq_silent {limit : Nat} {octets : Bytes} :
    read limit true octets = .silent ↔ octets = [] := by
  constructor
  · intro h
    unfold read at h
    split at h
    next => simp at h
    next => simp at h
    next line rest hread =>
      split at h
      next hempty =>
        subst hempty
        exact readLine_eq_nil hread
      next =>
        split at h
        · simp at h
        · exact absurd h (readHeaders_ne_silent limit true headerLineLimit _ _)
  · rintro rfl
    simp [read, readLine]

end RequestHead

end SitePreview
