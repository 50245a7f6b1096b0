import Dashboard.Proofs.Placeholders
import Dashboard.Settings
import Std.Data.String.ToInt

/-!
# What the address of a database tells

The address puts five settings between separators, and a setting may hold the separators itself.

* `Settings.SameDatabase` says that two settings agree in what goes into the address.
* `HoldsPort` says of a text that it holds what looks like a port: a colon, an integer and a slash,
  where the integer has no more digits than can be written.
* `Settings.Separate` says which settings have an address and must not hold which separators. From
  such settings the address can be cut at its first colon, the first at sign behind it and the only
  port (`Settings.Separate.sameDatabase`). All others have the address of some that differ from
  them, or none as those have none (`Settings.separate_of_determined`).
* `address_determines_iff` puts both together.
-/

namespace Dashboard

/-! ### Cutting texts -/

/-- Two cuts of a text, each in front of a character and behind it, are the same or one comes
first. -/
theorem append_cons_eq_cases {α : Type} {x y : α} {a b c d : List α}
    (h : a ++ x :: b = c ++ y :: d) :
    (a = c ∧ x = y ∧ b = d) ∨ (∃ e, c = a ++ x :: e ∧ b = e ++ y :: d) ∨
      ∃ e, a = c ++ y :: e ∧ d = e ++ x :: b := by
  rcases List.append_eq_append_iff.1 h with ⟨e, rfl, he⟩ | ⟨e, rfl, he⟩
  · rcases List.cons_eq_append_iff.1 he with ⟨rfl, he⟩ | ⟨e, rfl, rfl⟩
    · obtain ⟨rfl, rfl⟩ := List.cons.inj he
      exact .inl ⟨(List.append_nil _).symm, rfl, rfl⟩
    · exact .inr (.inl ⟨e, rfl, rfl⟩)
  · rcases List.cons_eq_append_iff.1 he with ⟨rfl, he⟩ | ⟨e, rfl, rfl⟩
    · obtain ⟨rfl, rfl⟩ := List.cons.inj he
      exact .inl ⟨List.append_nil _, rfl, rfl⟩
    · exact .inr (.inr ⟨e, rfl, rfl⟩)

/-- A cut at a character that does not stand in front of another cut does not come first. -/
theorem append_cons_eq_cases_of_notMem {α : Type} {x y : α} {a b c d : List α} (hy : y ∉ a)
    (h : a ++ x :: b = c ++ y :: d) :
    (a = c ∧ x = y ∧ b = d) ∨ ∃ e, c = a ++ x :: e ∧ b = e ++ y :: d := by
  rcases append_cons_eq_cases h with heq | hlater | ⟨e, rfl, -⟩
  · exact .inl heq
  · exact .inr hlater
  · exact absurd (List.mem_append_right _ List.mem_cons_self) hy

/-! ### Ports -/

/-- The text of a port. -/
def portText (n : ℤ) : List Char := (toString n).toList

theorem isDigit_or_of_mem_portText {n : ℤ} {c : Char} (h : c ∈ portText n) :
    c.isDigit = true ∨ c = '-' := by
  cases n with
  | ofNat k => exact .inl (Fragment.isDigit_of_mem_toString h)
  | negSucc k =>
    have htext : portText (Int.negSucc k) = '-' :: (toString (k + 1)).toList := by
      exact String.toList_append
    rw [htext, List.mem_cons] at h
    exact h.symm.imp_left Fragment.isDigit_of_mem_toString

theorem colon_notMem_portText (n : ℤ) : ':' ∉ portText n := fun h => by
  rcases isDigit_or_of_mem_portText h with h | h <;> exact absurd h (by decide)

theorem slash_notMem_portText (n : ℤ) : '/' ∉ portText n := fun h => by
  rcases isDigit_or_of_mem_portText h with h | h <;> exact absurd h (by decide)

theorem portText_injective : Function.Injective portText := fun _ _ h =>
  Int.repr_injective (String.toList_inj.1 h)

/-- A text holds a colon, an integer that can be written and a slash, one after the other. -/
def HoldsPort (s : List Char) : Prop :=
  ∃ front n back, isWritable n = true ∧ s = front ++ ':' :: (portText n ++ '/' :: back)

/-- What begins with a port has no colon before its end. -/
theorem exists_of_portText_append {n : ℤ} {a b c : List Char}
    (h : portText n ++ '/' :: a = b ++ ':' :: c) :
    ∃ e, b = portText n ++ '/' :: e ∧ a = e ++ ':' :: c := by
  rcases append_cons_eq_cases_of_notMem (colon_notMem_portText n) h with ⟨-, hslash, -⟩ | hlater
  · cases hslash
  · exact hlater

/-- If two texts hold no port, the port between them is the only one. -/
theorem port_unique {host database host' database' : List Char} {n n' : ℤ}
    (hn' : isWritable n' = true) (hhost : ¬HoldsPort host)
    (hdatabase : ¬HoldsPort database) (h : host ++ ':' :: (portText n ++ '/' :: database) =
      host' ++ ':' :: (portText n' ++ '/' :: database')) :
    host = host' ∧ n = n' ∧ database = database' := by
  rcases append_cons_eq_cases h with ⟨rfl, -, hport⟩ | ⟨e, rfl, he⟩ | ⟨e, rfl, he⟩
  · rcases append_cons_eq_cases_of_notMem (slash_notMem_portText n) hport with
      ⟨hport, -, hrest⟩ | ⟨e, hport, -⟩
    · exact ⟨rfl, portText_injective hport, hrest⟩
    · have hslash : '/' ∈ portText n' := by simp [hport]
      exact absurd hslash (slash_notMem_portText n')
  · obtain ⟨back, -, rfl⟩ := exists_of_portText_append he
    exact absurd ⟨back, n', database', hn', rfl⟩ hdatabase
  · obtain ⟨back, rfl, -⟩ := exists_of_portText_append he
    exact absurd ⟨host', n', back, hn', rfl⟩ hhost

/-! ### Addresses -/

namespace Settings

/-- Two settings agree in what goes into the address. -/
structure SameDatabase (s t : Settings) : Prop where
  user : s.user = t.user
  password : s.password = t.password
  host : s.host = t.host
  port : s.port = t.port
  database : s.database = t.database

/-- There is an address, and its separators stand nowhere else: no colon in the user, no colon and
no at sign in the password, no at sign in the host, and nothing that looks like a port in the host
and in the database. -/
structure Separate (s : Settings) : Prop where
  port : isWritable s.port = true
  user_colon : ':' ∉ s.user.toList
  password_colon : ':' ∉ s.password.toList
  password_at : '@' ∉ s.password.toList
  host_at : '@' ∉ s.host.toList
  host_port : ¬HoldsPort s.host.toList
  database_port : ¬HoldsPort s.database.toList

/-- What follows the scheme in an address. -/
def addressText (s : Settings) : List Char :=
  s.user.toList ++ ':' :: (s.password.toList ++ '@' :: (s.host.toList ++
    ':' :: (portText s.port ++ '/' :: s.database.toList)))

theorem databaseUrl?_eq (s : Settings) : s.databaseUrl? =
    if isWritable s.port = true then some (String.ofList ("postgresql://".toList ++ s.addressText))
    else none := by
  have htext : "postgresql://" ++ s.user ++ ":" ++ s.password ++ "@" ++ s.host ++ ":" ++
      toString s.port ++ "/" ++ s.database =
        String.ofList ("postgresql://".toList ++ s.addressText) := by
    rw [← String.toList_inj, String.toList_ofList]
    simp only [String.toList_append, List.append_assoc]
    rfl
  rw [databaseUrl?, htext]

/-- Settings have the address of others that have one exactly if their own port can be written too,
and what follows the scheme is the same. -/
theorem databaseUrl?_eq_iff {s t : Settings} (hs : isWritable s.port = true) :
    t.databaseUrl? = s.databaseUrl? ↔
      isWritable t.port = true ∧ t.addressText = s.addressText := by
  rw [databaseUrl?_eq, databaseUrl?_eq, if_pos hs]
  cases isWritable t.port with
  | false => simp
  | true => simp [String.ofList_inj]

/-- Settings that are separate are told by their address. -/
theorem Separate.sameDatabase {s t : Settings} (hs : s.Separate)
    (h : t.databaseUrl? = s.databaseUrl?) : t.SameDatabase s := by
  obtain ⟨hport, haddress⟩ := (databaseUrl?_eq_iff hs.port).1 h
  -- the host would hold an at sign if another cut came first
  have hhost {x : List Char} (hx : s.host.toList ++ ':' :: (portText s.port ++
      '/' :: s.database.toList) = x ++ '@' :: t.host.toList ++ ':' :: (portText t.port ++
      '/' :: t.database.toList)) : False := by
    obtain ⟨hhost, -, -⟩ := port_unique hport hs.host_port hs.database_port hx
    exact hs.host_at (by simp [hhost])
  rcases append_cons_eq_cases_of_notMem hs.user_colon haddress.symm with
    ⟨huser, -, hrest⟩ | ⟨x, -, hrest⟩
  · rcases append_cons_eq_cases_of_notMem hs.password_at hrest with
      ⟨hpassword, -, hrest⟩ | ⟨y, -, hrest⟩
    · obtain ⟨hhost, hnumber, hdatabase⟩ :=
        port_unique hport hs.host_port hs.database_port hrest
      exact ⟨String.toList_inj.1 huser.symm, String.toList_inj.1 hpassword.symm,
        String.toList_inj.1 hhost.symm, hnumber.symm, String.toList_inj.1 hdatabase.symm⟩
    · exact (hhost (by simpa using hrest)).elim
  · -- the first colon behind the user stands behind the at sign
    rcases append_cons_eq_cases_of_notMem hs.password_colon hrest with
      ⟨-, hat, -⟩ | ⟨y, -, hrest⟩
    · cases hat
    · exact (hhost (x := y ++ ':' :: t.password.toList) (by simpa using hrest)).elim

/-- Neither what comes before a character of a text nor what comes behind it is the text. -/
theorem ofList_ne_of_cut {x : String} {a b : List Char} {c : Char} (h : x.toList = a ++ c :: b) :
    String.ofList a ≠ x ∧ String.ofList b ≠ x := by
  have hlength := congrArg List.length h
  rw [List.length_append, List.length_cons] at hlength
  constructor
  · rintro rfl
    rw [String.toList_ofList] at hlength
    omega
  · rintro rfl
    rw [String.toList_ofList] at hlength
    omega

/-- Settings that no others share their address with are separate: where a separator stands, the
address can also be cut there, and without an address the user makes no difference. -/
theorem separate_of_determined {s : Settings}
    (h : ∀ t : Settings, t.databaseUrl? = s.databaseUrl? → t.SameDatabase s) : s.Separate := by
  have hport : isWritable s.port = true := by
    by_contra hlong
    let t : Settings := { s with user := s.user ++ "0" }
    have hsame : t.SameDatabase s := h t (by simp [t, databaseUrl?, hlong])
    have hlength := congrArg String.length hsame.user
    simp [t] at hlength
  have hshared {t : Settings} (hwritable : isWritable t.port = true)
      (ht : t.addressText = s.addressText) : t.SameDatabase s :=
    h t ((databaseUrl?_eq_iff hport).2 ⟨hwritable, ht⟩)
  refine ⟨hport, fun hmem => ?user_colon, fun hmem => ?password_colon, fun hmem => ?password_at,
    fun hmem => ?host_at, ?host_port, ?database_port⟩
  case user_colon =>
    obtain ⟨x, y, hx⟩ := List.append_of_mem hmem
    let t : Settings := { s with
      user := String.ofList x
      password := String.ofList (y ++ ':' :: s.password.toList) }
    have hsame : t.SameDatabase s := hshared hport (by simp [t, addressText, hx])
    exact (ofList_ne_of_cut hx).1 hsame.user
  case password_colon =>
    obtain ⟨x, y, hx⟩ := List.append_of_mem hmem
    let t : Settings := { s with
      user := String.ofList (s.user.toList ++ ':' :: x)
      password := String.ofList y }
    have hsame : t.SameDatabase s := hshared hport (by simp [t, addressText, hx])
    exact (ofList_ne_of_cut hx).2 hsame.password
  case password_at =>
    obtain ⟨x, y, hx⟩ := List.append_of_mem hmem
    let t : Settings := { s with
      password := String.ofList x
      host := String.ofList (y ++ '@' :: s.host.toList) }
    have hsame : t.SameDatabase s := hshared hport (by simp [t, addressText, hx])
    exact (ofList_ne_of_cut hx).1 hsame.password
  case host_at =>
    obtain ⟨x, y, hx⟩ := List.append_of_mem hmem
    let t : Settings := { s with
      password := String.ofList (s.password.toList ++ '@' :: x)
      host := String.ofList y }
    have hsame : t.SameDatabase s := hshared hport (by simp [t, addressText, hx])
    exact (ofList_ne_of_cut hx).2 hsame.host
  case host_port =>
    rintro ⟨x, n, y, hn, hx⟩
    let t : Settings := { s with
      host := String.ofList x
      port := n
      database := String.ofList (y ++ ':' :: (portText s.port ++ '/' :: s.database.toList)) }
    have hsame : t.SameDatabase s := hshared hn (by simp [t, addressText, hx])
    exact (ofList_ne_of_cut hx).1 hsame.host
  case database_port =>
    rintro ⟨x, n, y, hn, hx⟩
    let t : Settings := { s with
      host := String.ofList (s.host.toList ++ ':' :: (portText s.port ++ '/' :: x))
      port := n
      database := String.ofList y }
    have hsame : t.SameDatabase s := hshared hn (by simp [t, addressText, hx])
    have hdatabase : s.database.toList = (x ++ ':' :: portText n) ++ '/' :: y := by simp [hx]
    exact (ofList_ne_of_cut hdatabase).2 hsame.database

end Settings

/-- The address of some settings tells the user, the password, the host, the port and the database
exactly if the settings are separate: no others that differ in one of the five have this address,
whatever they are. Settings whose port cannot be written have no address that could tell anything,
and are not separate. -/
theorem address_determines_iff (s : Settings) :
    (∀ t : Settings, t.databaseUrl? = s.databaseUrl? → t.SameDatabase s) ↔ s.Separate := by
  constructor
  · exact Settings.separate_of_determined
  · intro hs t ht
    exact hs.sameDatabase ht

/-- A password with an at sign makes the rest of it a part of the host. -/
example : Settings.databaseUrl? { Settings.standard with password := "p@ss" } =
    Settings.databaseUrl? { Settings.standard with password := "p", host := "ss@localhost" } := by
  decide +kernel

end Dashboard
