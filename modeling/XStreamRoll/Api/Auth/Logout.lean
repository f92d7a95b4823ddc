/-
How long `logout` keeps a token out.

The denylist entry of a token is written with the whole seconds that the token has
left, into a cache that takes them for milliseconds.  So the entry is served for a
thousandth of the time for which the token can still be presented, and a refresh token
with less than a second left gets none.
-/
import XStreamRoll.Api.Auth

namespace XStreamRoll
namespace Api

namespace Platform

variable {p : Platform} {now t : Date} {cache cache' : Cache}

/-! ## What `logout` writes -/

/-- The last instant at which the entry for the token is served, if one is written. -/
def entryLast (now : Date) (token : Jwt) : Option Date :=
  token.claims.exp.bind fun exp =>
    if exp ≠ 0 ∧ 0 < secondsLeft exp now then some (now.plus (secondsLeft exp now).toNat) else none

/-- The same, for the entry under this key. -/
def denies (p : Platform) (now : Date) (key : String) (token : Jwt) : Option Date :=
  if token.claims.revocable.map p.cacheKey = some key then entryLast now token else none

/-- What the denylist says of a `jti` once the token is on it. -/
def revokedAfter (p : Platform) (now : Date) (token : Option Jwt) (cache : Cache) (t : Date)
    (jti : String) : Bool :=
  match token.bind (p.denies now (p.cacheKey jti)) with
  | some last => t ≤ last
  | none => p.isRevoked t jti cache

theorem isRevoked_revoke {jti jti' : String} {ttlSeconds : Int} (h : 0 < ttlSeconds) :
    p.isRevoked t jti' (p.revoke now jti ttlSeconds cache) =
      if p.cacheKey jti = p.cacheKey jti' then decide (t ≤ now.plus ttlSeconds.toNat)
      else p.isRevoked t jti' cache := by
  have hne : ttlSeconds.toNat ≠ 0 := by omega
  unfold isRevoked revoke Cache.write
  rw [if_neg (not_le.mpr h), if_neg hne]
  split
  · next hkey =>
    rw [← hkey, TtlCache.get_set_until]
    by_cases hle : t ≤ now.plus ttlSeconds.toNat
    · simp [hle]
    · simp [hle]
  · next hkey => rw [TtlCache.get_set_of_ne (Ne.symm hkey)]

theorem revoke_revokedAfter {token : Jwt} {jti jti' : String} {exp : Int}
    (hexp : token.claims.exp = some exp) (hne : exp ≠ 0) (hleft : 0 < secondsLeft exp now)
    (hjti : token.claims.revocable = some jti) :
    p.isRevoked t jti' (p.revoke now jti (secondsLeft exp now) cache) =
      p.revokedAfter now (some token) cache t jti' := by
  rw [isRevoked_revoke hleft, revokedAfter, Option.bind_some, denies, hjti, Option.map_some]
  by_cases hkey : p.cacheKey jti = p.cacheKey jti'
  · rw [if_pos hkey, if_pos (congrArg some hkey)]
    simp only [entryLast, hexp, Option.bind_some, if_pos (And.intro hne hleft)]
  · rw [if_neg hkey, if_neg]
    rw [Option.some.injEq]
    exact hkey

/-- A token without an expiry to come gets no entry. -/
theorem revokedAfter_of_unwritten {token : Option Jwt} (h : ∀ exp,
    token.bind (·.claims.exp) = some exp → exp = 0 ∨ secondsLeft exp now ≤ 0) (jti : String) :
    p.isRevoked t jti cache = p.revokedAfter now token cache t jti := by
  have hnone : token.bind (p.denies now (p.cacheKey jti)) = none := by
    cases token with
    | none => rfl
    | some token =>
      simp only [Option.bind_some, denies, entryLast] at h ⊢
      split
      · cases hexp : token.claims.exp with
        | none => rfl
        | some exp =>
          rw [Option.bind_some, if_neg]
          rintro ⟨hne, hleft⟩
          rcases h exp hexp with hzero | hover
          · exact hne hzero
          · omega
      · rfl
  rw [revokedAfter, hnone]

theorem logoutToken_bearer {header text : String} (h : logoutToken header = .ok text) :
    bearer header = some text := by
  unfold logoutToken extractBearerToken at h
  split at h
  · cases h
  · split at h
    · cases h
    · next found hfound =>
      rw [Except.ok.injEq] at h
      rw [hfound, h]

theorem decodeJti_ok {text jti : String} (h : p.decodeJti text = .ok jti) :
    ∃ token, p.parse text = some token ∧ token.claims.revocable = some jti := by
  unfold decodeJti at h
  split at h
  · cases h
  · next found hfound =>
    rw [Except.ok.injEq] at h
    subst h
    exact Option.bind_eq_some_iff.mp hfound

theorem logoutAccess_ok {header : String} (h : p.logoutAccess now header cache = .ok cache') :
    ∃ text token, bearer header = some text ∧ p.parse text = some token ∧
      p.accessJwt.verifies now token ∧ (∃ last, entryLast now token = some last) ∧
      ∀ t jti, p.isRevoked t jti cache' = p.revokedAfter now (some token) cache t jti := by
  obtain ⟨text, htext, h⟩ := bind_eq_ok.mp h
  obtain ⟨token, htoken, h⟩ := bind_eq_ok.mp h
  obtain ⟨hparse, hverifies⟩ := verified_ok htoken
  simp only at h
  split at h
  · cases h
  · cases h
  · next exp hzero hexp =>
    split at h
    · cases h
    · next hleft =>
      obtain ⟨jti, hjti, h⟩ := bind_eq_ok.mp h
      have hcache := Except.ok.inj h
      subst hcache
      obtain ⟨found, hfound, hrevocable⟩ := decodeJti_ok hjti
      rw [hparse, Option.some.injEq] at hfound
      subst hfound
      have hlast : entryLast now token = some (now.plus (secondsLeft exp now).toNat) := by
        rw [entryLast, hexp, Option.bind_some, if_pos ⟨hzero, not_le.mp hleft⟩]
      refine ⟨text, token, logoutToken_bearer htext, hparse, hverifies, ⟨_, hlast⟩, ?_⟩
      intro t jti'
      exact revoke_revokedAfter hexp hzero (not_le.mp hleft) hrevocable

theorem logoutRefresh_ok {refreshToken : String}
    (h : p.logoutRefresh now (some refreshToken) cache = .ok cache') (t : Date) (jti : String) :
    p.isRevoked t jti cache' = p.revokedAfter now
      (if refreshToken = "" then none else p.parse refreshToken) cache t jti := by
  unfold logoutRefresh at h
  split at h
  · cases ‹some refreshToken = none›
  · next hempty =>
    rw [Option.some.injEq] at hempty
    rw [if_pos hempty]
    cases h
    rfl
  · next text hne htext =>
    rw [Option.some.injEq] at htext
    subst htext
    rw [if_neg hne]
    split at h
    · next hnone =>
      cases h
      apply revokedAfter_of_unwritten
      intro exp hexp
      rw [hnone] at hexp
      cases hexp
    · next hzero =>
      cases h
      apply revokedAfter_of_unwritten
      intro exp hexp
      rw [hzero, Option.some.injEq] at hexp
      exact .inl hexp.symm
    · next exp hexpne hexp =>
      split at h
      · next hleft =>
        cases h
        apply revokedAfter_of_unwritten
        intro exp' hexp'
        rw [hexp, Option.some.injEq] at hexp'
        exact .inr (hexp' ▸ hleft)
      · next hleft =>
        obtain ⟨token, htoken, hclaims⟩ := Option.bind_eq_some_iff.mp hexp
        obtain ⟨jti', hjti', h⟩ := bind_eq_ok.mp h
        have hcache := Except.ok.inj h
        subst hcache
        obtain ⟨found, hfound, hrevocable⟩ := decodeJti_ok hjti'
        rw [htoken, Option.some.injEq] at hfound
        subst hfound
        rw [htoken]
        exact revoke_revokedAfter hclaims hexpne (not_le.mp hleft) hrevocable

/-! ## What `logout` is worth -/

/-- The last instant at which the entry that `logout` writes for the `jti` is served. -/
def writtenLast (p : Platform) (now : Date) (access refresh : Option Jwt) (jti : String) :
    Option Date :=
  (refresh.bind (p.denies now (p.cacheKey jti))).or (access.bind (p.denies now (p.cacheKey jti)))

/-- The entry of the token is over, or `logout` wrote none and there was none. -/
def Lapsed (p : Platform) (now : Date) (access refresh : Option Jwt) (cache : Cache) (t : Date)
    (token : Jwt) : Prop :=
  ∀ jti ∈ token.claims.revocable,
    match p.writtenLast now access refresh jti with
    | some last => last < t
    | none => p.isRevoked t jti cache = false

/-- The token that is given as the refresh token, if one is. -/
def given (p : Platform) (refreshToken : String) : Option Jwt :=
  if refreshToken = "" then none else p.parse refreshToken

theorem logout_ok {header refreshToken : String}
    (h : p.logout now header (some refreshToken) cache = (.ok (), cache')) :
    ∃ text token last, bearer header = some text ∧ p.parse text = some token ∧
      p.accessJwt.verifies now token ∧ entryLast now token = some last ∧
      ∀ t token, p.denylisted t token cache' = false ↔
        p.Lapsed now (p.parse text) (p.given refreshToken) cache t token := by
  unfold logout at h
  split at h
  · cases h
  · next between haccess =>
    split at h
    · cases h
    · next after hrefresh =>
      cases h
      obtain ⟨text, token, htext, hparse, hverifies, ⟨last, hlast⟩, hbetween⟩ :=
        logoutAccess_ok haccess
      refine ⟨text, token, last, htext, hparse, hverifies, hlast, ?_⟩
      intro t token'
      have hjti : ∀ jti, p.isRevoked t jti cache' = false ↔
          match p.writtenLast now (p.parse text) (p.given refreshToken) jti with
          | some last => last < t
          | none => p.isRevoked t jti cache = false := by
        intro jti
        rw [logoutRefresh_ok hrefresh, revokedAfter, writtenLast, given]
        cases (if refreshToken = "" then none else p.parse refreshToken).bind
            (p.denies now (p.cacheKey jti)) with
        | some last => simp
        | none =>
          rw [Option.none_or, hbetween, revokedAfter, hparse]
          cases (some token).bind (p.denies now (p.cacheKey jti)) with
          | some last => simp
          | none => rfl
      unfold denylisted Lapsed
      cases token'.claims.revocable with
      | none => simp
      | some jti =>
        rw [Option.any_some, hjti]
        simp only [Option.mem_some_iff, forall_eq']

/-- An entry is over before the token is: there is an instant after the one and before the
other. -/
theorem entryLast_lt {token : Jwt} {last : Date} {exp : Int} (h : entryLast now token = some last)
    (hexp : token.claims.exp = some exp) : seconds (last.plus 1) < exp := by
  rw [entryLast, hexp, Option.bind_some] at h
  split at h
  · next hleft =>
    rw [Option.some.injEq] at h
    subst h
    obtain ⟨-, hleft⟩ := hleft
    simp only [seconds, secondsLeft, Date.plus] at hleft ⊢
    omega
  · cases h

/-- From the logout on, no instant lets either token through. -/
structure LoggedOut (p : Platform) (now : Date) (access refresh : String) (cache : Cache)
    (db : Date → Database) : Prop where
  access : ∀ t header token, now ≤ t → bearer header = some access → p.parse access = some token →
    p.accessJwt.verifies t token → ∃ e, p.authenticate t (some header) cache (db t) = .error e
  refresh : ∀ t uuid uuid' token, now ≤ t → p.parse refresh = some token →
    p.refreshJwt.verifies t token →
    ∃ e, p.refresh t uuid uuid' refresh cache (db t) = .error e

theorem verified_eq {service : JwtService} {message text : String} {token : Jwt}
    (hparse : p.parse text = some token) (h : service.verifies t token) :
    p.verified service message t text = .ok token := by
  rw [verified, hparse]
  simp only [if_pos h]

theorem authenticate_eq {header text : String} {token : Jwt} {db : Database}
    (hbearer : bearer header = some text) (hparse : p.parse text = some token)
    (h : p.accessJwt.verifies t token) :
    p.authenticate t (some header) cache db =
      if p.denylisted t token cache = true then
        .error (.unauthorized "access token has been revoked")
      else token.claims.identify db := by
  have htoken : p.bearerToken t (some header) = .ok token := by
    simp only [bearerToken, extractBearerToken, Option.getD_some, hbearer]
    exact verified_eq hparse h
  rw [authenticate, htoken]
  rfl

/-- The user for whom a refresh token with these claims is renewed. -/
def account (db : Database) (claims : Claims) : Option User :=
  match claims.sub with
  | none | some 0 => none
  | some userId => db.findById userId

theorem refresh_refused_iff {uuid uuid' refreshToken : String} {token : Jwt} {db : Database}
    (hparse : p.parse refreshToken = some token) (h : p.refreshJwt.verifies t token) :
    (∃ e, p.refresh t uuid uuid' refreshToken cache db = .error e) ↔
      refreshToken = "" ∨ p.denylisted t token cache = true ∨ account db token.claims = none := by
  by_cases hempty : refreshToken = ""
  · simp [refresh, refreshable, hempty, bind, Except.bind, throw, throwThe, MonadExceptOf.throw]
  · have hverified : p.verifyRefreshToken t refreshToken = .ok token := verified_eq hparse h
    have hrefreshable : p.refreshable t refreshToken = match token.claims.sub with
        | none | some 0 => .error (.unauthorized "invalid refresh token")
        | some userId => .ok (token, userId) := by
      rw [refreshable, if_neg hempty, hverified]
      rfl
    rw [refresh, hrefreshable]
    simp only [hempty, false_or]
    unfold account
    split
    · simp [bind, Except.bind]
    · simp [bind, Except.bind]
    · next userId hne hsub =>
      cases hdeny : p.denylisted t token cache with
      | true => simp [hdeny, bind, Except.bind, throw, throwThe, MonadExceptOf.throw]
      | false =>
        cases hfind : db.findById userId with
        | none => simp [hdeny, hfind, bind, Except.bind, throw, throwThe, MonadExceptOf.throw]
        | some user => simp [hdeny, hfind, bind, Except.bind, pure, Except.pure]

/-- An access token with a `jti` of its own, whose user is known throughout, gets through
again as soon as its entry is over. -/
theorem logout_not_final {header refreshToken text jti : String} {token : Jwt} {exp : Int}
    (hheader : bearer header = some text)
    (h : p.logout now header (some refreshToken) cache = (.ok (), cache')) {db : Date → Database}
    (hparse : p.parse text = some token) (hexp : token.claims.exp = some exp)
    (hjti : token.claims.revocable = some jti)
    (hown : ∀ other ∈ p.given refreshToken,
      other.claims.revocable.map p.cacheKey ≠ some (p.cacheKey jti))
    (hknown : ∀ t, ∃ who, token.claims.identify (db t) = .ok who) :
    ¬p.LoggedOut now text refreshToken cache' db := by
  intro hout
  obtain ⟨text', token', last, htext, hparse', hverifies, hlast, hdenylist⟩ := logout_ok h
  rw [hheader, Option.some.injEq] at htext
  subst htext
  rw [hparse, Option.some.injEq] at hparse'
  subst hparse'
  have hafter : now ≤ last.plus 1 := by
    rw [entryLast, hexp, Option.bind_some] at hlast
    split at hlast
    · rw [Option.some.injEq] at hlast
      subst hlast
      rw [Date.le_iff]
      simp only [Date.plus]
      omega
    · cases hlast
  have hstill : p.accessJwt.verifies (last.plus 1) token := by
    refine ⟨hverifies.1, ?_⟩
    intro exp' hexp'
    rw [hexp, Option.mem_some_iff] at hexp'
    subst hexp'
    exact entryLast_lt hlast hexp
  have hlapsed : p.Lapsed now (p.parse text) (p.given refreshToken) cache (last.plus 1) token := by
    intro jti' hjti'
    rw [hjti, Option.mem_some_iff] at hjti'
    subst hjti'
    have hother : (p.given refreshToken).bind (p.denies now (p.cacheKey jti)) = none := by
      rw [Option.bind_eq_none_iff]
      intro other hgiven
      exact if_neg (hown other hgiven)
    have hwritten : p.writtenLast now (p.parse text) (p.given refreshToken) jti = some last := by
      rw [writtenLast, hother, Option.none_or, hparse, Option.bind_some, denies, hjti,
        Option.map_some, if_pos rfl, hlast]
    rw [hwritten]
    show last.getTime < (last.plus 1).getTime
    simp only [Date.plus]
    omega
  obtain ⟨e, he⟩ := hout.access _ header token hafter hheader hparse hstill
  obtain ⟨who, hwho⟩ := hknown (last.plus 1)
  rw [authenticate_eq hheader hparse hstill, (hdenylist _ token).mpr hlapsed, hwho] at he
  cases he

/-- After a logout the two tokens are kept out for good if and only if, whenever one
could still be presented and its denylist entry is over, its user is refused anyway. -/
theorem logout_final_iff {header refreshToken text : String} (hheader : bearer header = some text)
    (h : p.logout now header (some refreshToken) cache = (.ok (), cache')) (db : Date → Database) :
    p.LoggedOut now text refreshToken cache' db ↔
      (∀ t token, now ≤ t → p.parse text = some token → p.accessJwt.verifies t token →
        p.Lapsed now (p.parse text) (p.given refreshToken) cache t token →
        ∃ e, token.claims.identify (db t) = .error e) ∧
      ∀ t token, now ≤ t → p.given refreshToken = some token → p.refreshJwt.verifies t token →
        p.Lapsed now (p.parse text) (p.given refreshToken) cache t token →
        account (db t) token.claims = none := by
  obtain ⟨text', -, -, htext, -, -, -, hlapsed⟩ := logout_ok h
  rw [hheader, Option.some.injEq] at htext
  subst htext
  constructor
  · intro hout
    constructor
    · intro t token hle hparse hverifies hover
      have herror := hout.access t header token hle hheader hparse hverifies
      rw [authenticate_eq hheader hparse hverifies, (hlapsed t token).mpr hover] at herror
      exact herror
    · intro t token hle hgiven hverifies hover
      unfold given at hgiven
      split at hgiven
      · cases hgiven
      · next hne =>
        have herror := hout.refresh t "" "" token hle hgiven hverifies
        rw [refresh_refused_iff hgiven hverifies] at herror
        rcases herror with hempty | hdeny | hnone
        · exact absurd hempty hne
        · rw [(hlapsed t token).mpr hover] at hdeny
          cases hdeny
        · exact hnone
  · rintro ⟨haccess, hrefresh⟩
    constructor
    · intro t header' token hle hbearer hparse hverifies
      rw [authenticate_eq hbearer hparse hverifies]
      cases hdeny : p.denylisted t token cache' with
      | true => exact ⟨_, rfl⟩
      | false => exact haccess t token hle hparse hverifies ((hlapsed t token).mp hdeny)
    · intro t uuid uuid' token hle hparse hverifies
      apply (refresh_refused_iff hparse hverifies).mpr
      by_cases hempty : refreshToken = ""
      · exact .inl hempty
      · have hgiven : p.given refreshToken = some token := by rw [given, if_neg hempty, hparse]
        cases hdeny : p.denylisted t token cache' with
        | true => exact .inr (.inl rfl)
        | false => exact .inr (.inr (hrefresh t token hle hgiven hverifies ((hlapsed t token).mp hdeny)))

end Platform

/-! ## A user who logs out -/

/-- Tokens for 15 minutes and for 7 days.  The texts "a" and "r" stand for the two tokens
that a user was given at the start. -/
def fifteenMinutes : Platform :=
  let user : User := ⟨1, "u", "u@x", "", ⟨1000⟩, none, false⟩
  let access : JwtService := ⟨"access", 900⟩
  let refresh : JwtService := ⟨"refresh", 604800⟩
  { parse := fun text =>
      if text = "a" then some (access.sign ⟨1⟩ (Platform.claimsOf "j1" user))
      else if text = "r" then some (refresh.sign ⟨1⟩ (Platform.claimsOf "j2" user))
      else none
    sha256 := id, toLowerCase := id, hash := fun password _ => password
    compare := fun password hash => password = hash
    accessJwt := access, refreshJwt := refresh }

/-- The table with the user in it. -/
def oneUser : Database := ⟨[⟨1, "u", "u@x", "", ⟨1000⟩, none, false⟩], 2, [], 1⟩

/-- Once the account is gone, nothing but the missing row keeps the tokens out. -/
theorem logout_final_accountGone : ∃ cache, fifteenMinutes.logout ⟨1⟩ "Bearer a" (some "r")
    TtlCache.empty = (.ok (), cache) ∧
      fifteenMinutes.LoggedOut ⟨1⟩ "a" "r" cache fun _ => ⟨[], 2, [], 1⟩ := by
  obtain ⟨cache, hcache⟩ : ∃ cache, fifteenMinutes.logout ⟨1⟩ "Bearer a" (some "r")
      TtlCache.empty = (.ok (), cache) := ⟨_, rfl⟩
  refine ⟨cache, hcache, ?_⟩
  apply (Platform.logout_final_iff (by decide +kernel) hcache _).mpr
  constructor
  · intro t token _ hparse _ _
    cases hparse
    exact ⟨_, rfl⟩
  · intro t token _ hgiven _ _
    cases hgiven
    rfl

/-- The access token of a user who has logged out is let through again after 899 ms. -/
theorem logout_forgotten :
    ¬∀ (p : Platform) (now : Date) (header refreshToken text : String) (cache cache' : Cache)
      (db : Date → Database), bearer header = some text →
      p.logout now header (some refreshToken) cache = (.ok (), cache') →
      p.LoggedOut now text refreshToken cache' db := by
  intro h
  obtain ⟨cache, hcache⟩ : ∃ cache, fifteenMinutes.logout ⟨1⟩ "Bearer a" (some "r")
      TtlCache.empty = (.ok (), cache) := ⟨_, rfl⟩
  have hheader : bearer "Bearer a" = some "a" := by decide +kernel
  have hown : ∀ other ∈ fifteenMinutes.given "r",
      other.claims.revocable.map fifteenMinutes.cacheKey ≠ some (fifteenMinutes.cacheKey "j1") := by
    intro other hother
    cases hother
    decide
  have hknown : ∀ _ : Date, ∃ who,
      (Platform.claimsOf "j1" ⟨1, "u", "u@x", "", ⟨1000⟩, none, false⟩).identify oneUser = .ok who :=
    fun _ => ⟨_, rfl⟩
  have hout := h fifteenMinutes ⟨1⟩ "Bearer a" "r" "a" TtlCache.empty cache (fun _ => oneUser)
    hheader hcache
  exact Platform.logout_not_final hheader hcache rfl rfl rfl hown hknown hout

end Api
end XStreamRoll
