import ModuleDocs.Proofs.Remote.Calls

namespace ModuleDocs.Remote
open Document

variable {σ : Type}

/-- What a location gives: a document, none, or an error. -/
abbrev Outcome := Except RemoteError (Option Item)

/-- The search of a folder for a kind, by what the client answers to it in turn. -/
inductive Visit (f : Fetcher (StateM σ)) (b : Text) (k : Kind) (folder : Text) (s : σ) :
    Outcome → σ → Prop where
  | unlisted {e : RemoteError} {reply : Reply (List Listed)} {s₁ : σ} :
      (f.client.listFiles folder b).run s = (reply, s₁) → bounded f.bound reply = .error e →
      Visit f b k folder s (.error e) s₁
  | unmatched {entries : List Listed} {reply : Reply (List Listed)} {s₁ : σ} :
      (f.client.listFiles folder b).run s = (reply, s₁) → bounded f.bound reply = .ok entries →
      chosen? k Listed.name entries = none → Visit f b k folder s (.ok none) s₁
  | unread {entries : List Listed} {entry : Listed} {e : RemoteError} {reply : Reply (List Listed)}
      {reply' : Reply (Option Text)} {s₁ s₂ : σ} :
      (f.client.listFiles folder b).run s = (reply, s₁) → bounded f.bound reply = .ok entries →
      chosen? k Listed.name entries = some entry →
      (f.client.fileContent entry.path b).run s₁ = (reply', s₂) → bounded f.bound reply' = .error e →
      Visit f b k folder s (.error e) s₂
  | empty {entries : List Listed} {entry : Listed} {content : Option Text}
      {reply : Reply (List Listed)} {reply' : Reply (Option Text)} {s₁ s₂ : σ} :
      (f.client.listFiles folder b).run s = (reply, s₁) → bounded f.bound reply = .ok entries →
      chosen? k Listed.name entries = some entry →
      (f.client.fileContent entry.path b).run s₁ = (reply', s₂) → bounded f.bound reply' = .ok content →
      (∀ c ∈ content, Text.isBlank c = true) → Visit f b k folder s (.ok none) s₂
  | found {entries : List Listed} {entry : Listed} {content : Text}
      {reply : Reply (List Listed)} {reply' : Reply (Option Text)} {s₁ s₂ : σ} :
      (f.client.listFiles folder b).run s = (reply, s₁) → bounded f.bound reply = .ok entries →
      chosen? k Listed.name entries = some entry →
      (f.client.fileContent entry.path b).run s₁ = (reply', s₂) →
      bounded f.bound reply' = .ok (some content) → Text.isBlank content = false →
      Visit f b k folder s (.ok (some (Item.ofKind k content entry.name entry.path .remote))) s₂

inductive Visits (f : Fetcher (StateM σ)) (b : Text) (given : Kind → Text → Outcome) :
    List (Kind × Text) → σ → σ → Prop where
  | nil {s : σ} : Visits f b given [] s s
  | cons {k : Kind} {folder : Text} {rest : List (Kind × Text)} {s s₁ s₂ : σ} :
      Visit f b k folder s (given k folder) s₁ → Visits f b given rest s₁ s₂ →
      Visits f b given ((k, folder) :: rest) s s₂

section
variable {f : Fetcher (StateM σ)} {b : Text} {k : Kind} {folder : Text} {s s₁ : σ}

theorem Visit.run {o : Outcome} (h : Visit f b k folder s o s₁) :
    (f.candidateIn k b folder).run s = (o, s₁) := by
  unfold Fetcher.candidateIn
  cases h with
  | unlisted listed failed =>
    rw [run_bind listed, failed]
    rfl
  | unmatched listed entries none =>
    rw [run_bind listed, entries]
    dsimp only
    rw [none]
    rfl
  | unread listed entries chosen read failed =>
    rw [run_bind listed, entries]
    dsimp only
    rw [chosen]
    dsimp only
    rw [run_bind read, failed]
    rfl
  | @empty _ entry content _ _ _ _ listed entries chosen read answered blank =>
    rw [run_bind listed, entries]
    dsimp only
    rw [chosen]
    dsimp only
    rw [run_bind read, answered]
    cases content with
    | none => rfl
    | some c =>
      have blank : ¬ (Item.ofKind k c entry.name entry.path .remote).hasContent = true := by
        simpa [Item.hasContent, Item.ofKind] using blank c rfl
      dsimp only
      rw [Option.map_some, Option.filter_some, if_neg blank]
      rfl
  | @found _ entry content _ _ _ _ listed entries chosen read answered text =>
    rw [run_bind listed, entries]
    dsimp only
    rw [chosen]
    dsimp only
    rw [run_bind read, answered]
    have text : (Item.ofKind k content entry.name entry.path .remote).hasContent = true := by
      simpa [Item.hasContent, Item.ofKind] using text
    dsimp only
    rw [Option.map_some, Option.filter_some, if_pos text]
    rfl

theorem exists_visit (f : Fetcher (StateM σ)) (b : Text) (k : Kind) (folder : Text) (s : σ) :
    ∃ o s₁, Visit f b k folder s o s₁ := by
  rcases listed : (f.client.listFiles folder b).run s with ⟨reply, s₁⟩
  cases entries : bounded f.bound reply with
  | error e => exact ⟨_, _, .unlisted listed entries⟩
  | ok entries' =>
    cases chosen : chosen? k Listed.name entries' with
    | none => exact ⟨_, _, .unmatched listed entries chosen⟩
    | some entry =>
      rcases read : (f.client.fileContent entry.path b).run s₁ with ⟨reply', s₂⟩
      cases answered : bounded f.bound reply' with
      | error e => exact ⟨_, _, .unread listed entries chosen read answered⟩
      | ok content =>
        cases content with
        | none => exact ⟨_, _, .empty listed entries chosen read answered (by simp)⟩
        | some c =>
          cases blank : Text.isBlank c with
          | true => exact ⟨_, _, .empty listed entries chosen read answered (by simpa using blank)⟩
          | false => exact ⟨_, _, .found listed entries chosen read answered blank⟩

theorem Visit.item {i : Item} (h : Visit f b k folder s (.ok (some i)) s₁) :
    i.hasContent = true ∧ i.source = .remote ∧ i.kind = some k := by
  cases h with
  | found _ _ _ _ _ text => exact ⟨by simpa [Item.hasContent, Item.ofKind] using text, rfl, rfl⟩

theorem Visits.append {given : Kind → Text → Outcome} {first later : List (Kind × Text)} {s s₂ : σ}
    (h : Visits f b given (first ++ later) s s₂) :
    ∃ s₁, Visits f b given first s s₁ ∧ Visits f b given later s₁ s₂ := by
  induction first generalizing s with
  | nil => exact ⟨s, .nil, h⟩
  | cons location rest ih =>
    cases h with
    | cons visit others =>
      obtain ⟨s₁, before, after⟩ := ih others
      exact ⟨s₁, .cons visit before, after⟩

theorem Visits.exists_visit {given : Kind → Text → Outcome} {locations : List (Kind × Text)} {s s₂ : σ}
    (h : Visits f b given locations s s₂) {k : Kind} {folder : Text} (mem : (k, folder) ∈ locations) :
    ∃ s s₁, Visit f b k folder s (given k folder) s₁ := by
  induction h with
  | nil => contradiction
  | cons visit _ ih =>
    cases mem with
    | head => exact ⟨_, _, visit⟩
    | tail _ later => exact ih later

theorem Visits.congr {given given' : Kind → Text → Outcome} {locations : List (Kind × Text)} {s s₂ : σ}
    (h : Visits f b given locations s s₂)
    (same : ∀ l ∈ locations, given l.1 l.2 = given' l.1 l.2) : Visits f b given' locations s s₂ := by
  induction h with
  | nil => exact .nil
  | @cons k folder _ _ _ _ visit _ ih =>
    rw [same (k, folder) List.mem_cons_self] at visit
    exact .cons visit (ih fun l later => same l (List.mem_cons_of_mem _ later))

theorem exists_visits (f : Fetcher (StateM σ)) (b : Text) {locations : List (Kind × Text)}
    (distinct : locations.Nodup) (s : σ) : ∃ given s₂, Visits f b given locations s s₂ := by
  induction locations generalizing s with
  | nil => exact ⟨fun _ _ => .ok none, s, .nil⟩
  | cons location rest ih =>
    obtain ⟨k, folder⟩ := location
    rw [List.nodup_cons] at distinct
    obtain ⟨o, s₁, visit⟩ := exists_visit f b k folder s
    obtain ⟨given, s₂, others⟩ := ih distinct.2 s₁
    refine ⟨fun k' folder' => if (k', folder') = (k, folder) then o else given k' folder', s₂,
      .cons ?_ (others.congr fun l later => ?_)⟩
    · rwa [if_pos rfl]
    · rw [if_neg (ne_of_mem_of_not_mem later distinct.1)]

theorem Visits.run_candidatesIn {given : Kind → Text → Outcome} {folders : List Text}
    (h : Visits f b given (folders.map (k, ·)) s s₁) : (f.candidatesIn k b folders).run s =
      (Located.ofOutcomes (folders.map fun folder => (folder, given k folder)), s₁) := by
  have each : (folders.mapM fun folder => do pure (folder, ← f.candidateIn k b folder)).run s =
      (folders.map fun folder => (folder, given k folder), s₁) := by
    induction folders generalizing s with
    | nil => cases h; rfl
    | cons folder rest ih =>
      cases h with
      | cons visit others => exact run_mapM_cons (run_bind visit.run) (ih others)
  unfold Fetcher.candidatesIn
  rw [run_bind each]
  rfl

end
end ModuleDocs.Remote
