import Rokad.Profiles.Service

/-!
# Who sees which posts

A reader should see the published posts that are not deleted and whose audience includes the
reader, each with the comments that are not deleted. A history remembers the deletions and
restorations, and the last one of a row decides.

No call that reads asks whether a row is deleted; the public list and the page of a post do not ask
who reads, and the page not even whether the post is published; the feed has no rule for a reader
without an account or for a coach, and for a student it looks at one class (`not_out_of_sight`). A
run shows what it should exactly when each reading meets no row of these kinds
(`out_of_sight_iff`).
-/

namespace Rokad.Profiles

open Rokad.Base Rokad.Common

/-! ### Histories -/

/-- A row was deleted, or restored. -/
structure Deletion where
  id : Id
  isDeleted : Bool

/-- The last that happened to the row is not a deletion. -/
def isLive (events : List Deletion) (id : Id) : Bool :=
  (events.filter fun e => e.id = id).getLast?.all fun e => !e.isDeleted

structure History where
  db : Db := {}
  (posts comments : List Deletion := [])

inductive Call where
  | createBlogPost (tenantId authorId : Id) (dto : CreateBlogPostDto) (generated : String)
  | deleteBlogPost (tenantId postId : Id) (user : Option Viewer) (now : Instant)
  | restoreBlogPost (tenantId postId : Id)
  | addComment (tenantId postId authorId : Id)
  | deleteComment (tenantId commentId : Id) (user : Viewer) (now : Instant)
  | restoreBlogComment (tenantId commentId : Id)
  | listMediaFeed (tenantId : Id) (reader : Option Viewer) (postType : Option String)
  | listBlogPosts (tenantId : Id) (reader : Option Viewer) (authorId : Option Id)
  | getBlogPostBySlug (tenantId : Id) (reader : Option Viewer) (slug : String)

def History.onPost (h : History) (event : Deletion) : Result Db → History
  | .ok db => { h with db, posts := h.posts ++ [event] }
  | .error _ => h

def History.onComment (h : History) (event : Deletion) : Result Db → History
  | .ok db => { h with db, comments := h.comments ++ [event] }
  | .error _ => h

def step (school : School) (h : History) : Call → History
  | .createBlogPost tenantId authorId dto generated =>
    { h with db := settled h.db (createBlogPost school tenantId authorId dto generated h.db) }
  | .deleteBlogPost tenantId postId user now =>
    h.onPost ⟨postId, true⟩ (deleteBlogPost tenantId postId user now h.db)
  | .restoreBlogPost tenantId postId =>
    h.onPost ⟨postId, false⟩ (restoreBlogPost tenantId postId h.db)
  | .addComment tenantId postId authorId =>
    { h with db := settled h.db (addComment school tenantId postId authorId h.db) }
  | .deleteComment tenantId commentId user now =>
    h.onComment ⟨commentId, true⟩ (deleteComment tenantId commentId user now h.db)
  | .restoreBlogComment tenantId commentId =>
    h.onComment ⟨commentId, false⟩ (restoreBlogComment tenantId commentId h.db)
  | .listMediaFeed _ _ _ | .listBlogPosts _ _ _ | .getBlogPostBySlug _ _ _ => h

/-! ### The law -/

section

variable (school : School)

/-- The audience of the post includes the reader. -/
def Includes (reader : Option Viewer) (p : ProfileBlog) : Prop :=
  p.audienceType = "ALL" ∨ ∃ u ∈ reader, u.role.text ∈ p.targetRoles ∨
    (∃ c ∈ school.ownClasses u.id ++ school.childrensClasses u.id, c ∈ p.targetClassroomIds) ∨
    p.authorId = u.id ∨ u.role.isStaffOrAdmin = true
deriving Decidable

/-- Of what was asked for, exactly the published posts that are live and include the reader, each
with exactly its live comments. -/
structure Rightly (h : History) (asked : ProfileBlog → Prop) (reader : Option Viewer)
    (shown : List Shown) : Prop where
  stored : ∀ s ∈ shown, s.post ∈ h.db.posts.rows ∧
    ∀ cs ∈ s.comments, ∀ c ∈ cs, c ∈ h.db.comments.rows
  posts : ∀ p ∈ h.db.posts.rows, p ∈ shown.map (·.post) ↔
    asked p ∧ p.isPublished = true ∧ isLive h.posts p.id = true ∧ Includes school reader p
  comments : ∀ s ∈ shown, ∀ cs ∈ s.comments, ∀ c ∈ h.db.comments.rows,
    c ∈ cs ↔ c.blogId = s.post.id ∧ isLive h.comments c.id = true

/-- A list of posts shows the reader those that are live and meant for the reader. -/
def Kept (h : History) : Call → Prop
  | .listMediaFeed tenantId reader postType =>
    Rightly school h (fun p => p.tenantId = tenantId ∧ ofType postType p = true) reader
      (listMediaFeed school h.db tenantId reader postType)
  | .listBlogPosts tenantId reader authorId =>
    Rightly school h (fun p => p.tenantId = tenantId ∧ ∀ a ∈ authorId, p.authorId = a) reader
      (listBlogPosts h.db tenantId authorId)
  | .getBlogPostBySlug tenantId reader slug =>
    Rightly school h (fun p => p.tenantId = tenantId ∧ p.slug = slug) reader
      (getBlogPostBySlug h.db tenantId slug).toOption.toList
  | _ => True

/-! ### The condition -/

/-- No comment of the post is deleted. -/
def NoneDeleted (db : Db) (p : ProfileBlog) : Prop :=
  ∀ c ∈ db.comments.rows, c.blogId = p.id → c.deletedAt = none
deriving Decidable

/-- The feed's filter agrees with the audience of a post. -/
def Agrees (reader : Option Viewer) (p : ProfileBlog) : Prop :=
  match reader with
  | none => p.audienceType = "ALL"
  | some u =>
    let own := p.targetsSome (school.ownClasses u.id) = true
    let childrens := p.targetsSome (school.childrensClasses u.id) = true
    let author := p.authorId = u.id
    match u.role with
    | .superAdmin | .schoolAdmin | .staff => True
    | .coach => p.isOpenTo .coach = true ∨ own ∨ childrens ∨ author
    | .teacher => own ∨ childrens → p.isOpenTo .teacher = true ∨ author
    | .student => own ∨ childrens ∨ author → p.isOpenTo .student = true ∨
        p.targetsSome ((school.ownClasses u.id).take 1) = true
    | .parent => own ∨ author → p.isOpenTo .parent = true ∨ childrens

def Fits (h : History) : Call → Prop
  | .listMediaFeed tenantId reader postType =>
    ∀ p ∈ h.db.posts.rows, p.tenantId = tenantId → p.isPublished = true → ofType postType p = true →
        if p.deletedAt = none then
          Agrees school reader p ∧ (feedAudience school reader p = true → NoneDeleted h.db p)
        else feedAudience school reader p = false
  | .listBlogPosts tenantId reader authorId =>
    ∀ p ∈ h.db.posts.rows, p.tenantId = tenantId → (∀ a ∈ authorId, p.authorId = a) →
      p.isPublished = true → p.deletedAt = none ∧ Includes school reader p
  | .getBlogPostBySlug tenantId reader slug =>
    ∀ p ∈ h.db.posts.rows, p.tenantId = tenantId → p.slug = slug →
      (p.isPublished = true ∧ p.deletedAt = none ∧ Includes school reader p) ∧ NoneDeleted h.db p
  | _ => True

end

/-! ### What a history remembers -/

section

variable {events : List Deletion} {id : Id}

@[simp] theorem isLive_append_self (e : Deletion) : isLive (events ++ [e]) e.id = !e.isDeleted := by
  simp [isLive, List.filter_append]

theorem isLive_append_of_ne {e : Deletion} (other : id ≠ e.id) :
    isLive (events ++ [e]) id = isLive events id := by
  simp [isLive, List.filter_append, Ne.symm other]

theorem isLive_of_unknown (unknown : ∀ e ∈ events, e.id ≠ id) : isLive events id = true := by
  have none : events.filter (fun e => e.id = id) = [] :=
    List.filter_eq_nil_iff.mpr fun e mem => by simpa using unknown e mem
  simp [isLive, none]

/-- The marks of a table say what the last events were, and the events are about its rows. -/
structure Marks {α : Type} [Record α] (deletedAt : α → Option Instant) (t : Table α)
    (events : List Deletion) : Prop where
  live : ∀ row ∈ t.rows, deletedAt row = none ↔ isLive events (Record.key row) = true
  known : ∀ e ∈ events, t.has (some e.id) = true

section

variable {α : Type} [Record α] {deletedAt : α → Option Instant} {t t' : Table α}

theorem Marks.insert (marks : Marks deletedAt t events) {row : α}
    (inserted : t.insert row = some t') (unmarked : deletedAt row = none) :
    Marks deletedAt t' events := by
  constructor
  · intro x mem
    rcases (mem_insert inserted).mp mem with mem | rfl
    · exact marks.live x mem
    · refine iff_of_true unmarked (isLive_of_unknown fun e mem same => ?_)
      obtain ⟨old, found⟩ := has_some_iff.mp (marks.known e mem)
      exact (insert_spec.mp inserted).2.1 old (mem_of_find? found)
        ((key_of_find? found).trans same)
  · exact fun e mem => Table.has_insert inserted (marks.known e mem)

theorem Marks.update (marks : Marks deletedAt t events) {k : Id} {f : α → α}
    {keep : ∀ a, Record.key (f a) = Record.key a} (updated : t.update k f keep = some t')
    {mark : Option Instant} (marked : ∀ a, deletedAt (f a) = mark) :
    Marks deletedAt t' (events ++ [⟨k, mark.isSome⟩]) := by
  constructor
  · intro x mem
    rcases (mem_update updated).mp mem with ⟨mem, other⟩ | ⟨row, found, rfl⟩
    · rw [isLive_append_of_ne other]
      exact marks.live x mem
    · rw [keep, key_of_find? found, isLive_append_self, marked]
      cases mark <;> simp
  · intro e mem
    rw [Table.has_update updated]
    rcases List.mem_append.mp mem with mem | mem
    · exact marks.known e mem
    · obtain rfl := List.mem_singleton.mp mem
      exact has_some_iff.mpr (Table.find?_of_update updated)

end

structure Faithful (h : History) : Prop where
  posts : Marks ProfileBlog.deletedAt h.db.posts h.posts
  comments : Marks ProfileBlogComment.deletedAt h.db.comments h.comments

theorem faithful_empty : Faithful {} where
  posts := ⟨List.forall_mem_nil _, List.forall_mem_nil _⟩
  comments := ⟨List.forall_mem_nil _, List.forall_mem_nil _⟩

variable {h : History} {db : Db}

theorem Faithful.markPost (faithful : Faithful h) {postId : Id} {mark : Option Instant}
    (done : h.db.markPost postId mark = .ok db) :
    Faithful { h with db, posts := h.posts ++ [⟨postId, mark.isSome⟩] } := by
  simp only [Db.markPost, do_eq_ok, updateRow_eq_ok] at done
  obtain ⟨posts, updated, rfl⟩ := done
  exact ⟨faithful.posts.update updated fun _ => rfl, faithful.comments⟩

theorem Faithful.markComment (faithful : Faithful h) {commentId : Id} {mark : Option Instant}
    (done : h.db.markComment commentId mark = .ok db) :
    Faithful { h with db, comments := h.comments ++ [⟨commentId, mark.isSome⟩] } := by
  simp only [Db.markComment, do_eq_ok, updateRow_eq_ok] at done
  obtain ⟨comments, updated, rfl⟩ := done
  exact ⟨faithful.posts, faithful.comments.update updated fun _ => rfl⟩

theorem step_faithful {school : School} (faithful : Faithful h) (call : Call) :
    Faithful (step school h call) := by
  cases call with
  | createBlogPost tenantId authorId dto generated =>
    refine settled_keeps (I := fun db => Faithful { h with db }) faithful fun db done => ?_
    simp only [createBlogPost, do_eq_ok, insertRow_eq_ok] at done
    obtain ⟨⟨⟩, -, ⟨⟩, -, posts, inserted, rfl⟩ := done
    exact ⟨faithful.posts.insert inserted rfl, faithful.comments⟩
  | addComment tenantId postId authorId =>
    refine settled_keeps (I := fun db => Faithful { h with db }) faithful fun db done => ?_
    simp only [addComment, do_eq_ok, insertRow_eq_ok] at done
    obtain ⟨_, -, ⟨⟩, -, ⟨⟩, -, comments, inserted, rfl⟩ := done
    exact ⟨faithful.posts, faithful.comments.insert inserted rfl⟩
  | deleteBlogPost tenantId postId user now =>
    dsimp only [step]
    cases done : deleteBlogPost tenantId postId user now h.db with
    | error e => exact faithful
    | ok db =>
      obtain ⟨_, -, rest⟩ := bind_eq_ok.mp done
      obtain ⟨⟨⟩, -, marked⟩ := bind_eq_ok.mp rest
      exact faithful.markPost marked
  | restoreBlogPost tenantId postId =>
    dsimp only [step]
    cases done : restoreBlogPost tenantId postId h.db with
    | error e => exact faithful
    | ok db =>
      obtain ⟨_, -, marked⟩ := bind_eq_ok.mp done
      exact faithful.markPost marked
  | deleteComment tenantId commentId user now =>
    dsimp only [step]
    cases done : deleteComment tenantId commentId user now h.db with
    | error e => exact faithful
    | ok db =>
      obtain ⟨_, -, rest⟩ := bind_eq_ok.mp done
      obtain ⟨⟨⟩, -, marked⟩ := bind_eq_ok.mp rest
      exact faithful.markComment marked
  | restoreBlogComment tenantId commentId =>
    dsimp only [step]
    cases done : restoreBlogComment tenantId commentId h.db with
    | error e => exact faithful
    | ok db =>
      obtain ⟨_, -, marked⟩ := bind_eq_ok.mp done
      exact faithful.markComment marked
  | listMediaFeed tenantId reader postType => exact faithful
  | listBlogPosts tenantId reader authorId => exact faithful
  | getBlogPostBySlug tenantId reader slug => exact faithful

end

/-! ### Readings -/

section

variable {school : School} {h : History} {reader : Option Viewer} {p : ProfileBlog}

theorem mem_commentsOf {db : Db} {postId : Id} {c : ProfileBlogComment} :
    c ∈ db.commentsOf postId ↔ c ∈ db.comments.rows ∧ c.blogId = postId := by
  simp [Db.commentsOf]

/-- A list of stored posts, with all their comments or without: it is right exactly if the posts
are, and no comment that is shown is deleted. -/
theorem rightly_iff {asked : ProfileBlog → Prop} {shown : List Shown} (faithful : Faithful h)
    (stored : ∀ s ∈ shown, s.post ∈ h.db.posts.rows)
    (included : ∀ s ∈ shown, ∀ cs ∈ s.comments, cs = h.db.commentsOf s.post.id) :
    Rightly school h asked reader shown ↔ (∀ p ∈ h.db.posts.rows, p ∈ shown.map (·.post) ↔
        asked p ∧ p.isPublished = true ∧ p.deletedAt = none ∧ Includes school reader p) ∧
      ∀ s ∈ shown, ∀ _ ∈ s.comments, NoneDeleted h.db s.post := by
  have live (p : ProfileBlog) (mem : p ∈ h.db.posts.rows) :
      isLive h.posts p.id = true ↔ p.deletedAt = none := (faithful.posts.live p mem).symm
  have liveComment (c : ProfileBlogComment) (mem : c ∈ h.db.comments.rows) :
      isLive h.comments c.id = true ↔ c.deletedAt = none := (faithful.comments.live c mem).symm
  constructor
  · intro rightly
    refine ⟨fun p mem => ?_, fun s mem cs isCs c memC ofPost => ?_⟩
    · rw [rightly.posts p mem, live p mem]
    · have mine : c ∈ cs := by
        rw [included s mem cs isCs]
        exact mem_commentsOf.mpr ⟨memC, ofPost⟩
      exact (liveComment c memC).mp ((rightly.comments s mem cs isCs c memC).mp mine).2
  · rintro ⟨posts, comments⟩
    refine ⟨fun s mem => ⟨stored s mem, fun cs isCs c memC => ?_⟩, fun p mem => ?_,
      fun s mem cs isCs c memC => ?_⟩
    · rw [included s mem cs isCs] at memC
      exact (mem_commentsOf.mp memC).1
    · rw [posts p mem, live p mem]
    · rw [included s mem cs isCs, mem_commentsOf, liveComment c memC]
      exact ⟨fun ⟨_, ofPost⟩ => ⟨ofPost, comments s mem cs isCs c memC ofPost⟩,
        fun ⟨ofPost, _⟩ => ⟨memC, ofPost⟩⟩

theorem targetsSome_iff {classroomIds : List Id} :
    p.targetsSome classroomIds = true ↔ ∃ c ∈ classroomIds, c ∈ p.targetClassroomIds := by
  simp [ProfileBlog.targetsSome]

theorem isOpenTo_iff {role : UserRole} :
    p.isOpenTo role = true ↔ p.audienceType = "ALL" ∨ role.text ∈ p.targetRoles := by
  simp [ProfileBlog.isOpenTo]

theorem includes_some_iff {u : Viewer} : Includes school (some u) p ↔
    p.isOpenTo u.role = true ∨ p.targetsSome (school.ownClasses u.id) = true ∨
      p.targetsSome (school.childrensClasses u.id) = true ∨ p.authorId = u.id ∨
        u.role.isStaffOrAdmin = true := by
  rw [isOpenTo_iff, targetsSome_iff, targetsSome_iff]
  simp only [Includes, Option.mem_def, Option.some.injEq, exists_eq_left', List.mem_append,
    or_and_right, exists_or, or_assoc]

/-- The first of the classes is one of them. -/
theorem targetsSome_take {classroomIds : List Id} {n : ℕ}
    (first : p.targetsSome (classroomIds.take n) = true) : p.targetsSome classroomIds = true := by
  obtain ⟨c, mem, target⟩ := targetsSome_iff.mp first
  exact targetsSome_iff.mpr ⟨c, List.mem_of_mem_take mem, target⟩

theorem agrees_iff_includes :
    Agrees school reader p ↔ (feedAudience school reader p = true ↔ Includes school reader p) := by
  cases reader with
  | none => simp [Agrees, feedAudience, Includes]
  | some u =>
    rw [includes_some_iff]
    have first : p.targetsSome ((school.ownClasses u.id).take 1) = true →
        p.targetsSome (school.ownClasses u.id) = true := targetsSome_take
    unfold Agrees feedAudience
    dsimp only
    cases u.role <;>
      simp only [UserRole.isStaffOrAdmin, reduceCtorEq, decide_false, decide_true, Bool.or_false,
        Bool.or_true, Bool.false_eq_true, or_false, or_true, true_iff,
        Bool.or_eq_true, decide_eq_true_eq]
    · tauto
    · tauto
    · tauto

theorem listMediaFeed_iff {tenantId : Id} {postType : Option String} (faithful : Faithful h) :
    Kept school h (.listMediaFeed tenantId reader postType) ↔
      Fits school h (.listMediaFeed tenantId reader postType) := by
  have shown (s : Shown) : s ∈ listMediaFeed school h.db tenantId reader postType ↔
      ∃ p, (p ∈ h.db.posts.rows ∧ p.tenantId = tenantId ∧ p.isPublished = true ∧
        ofType postType p = true ∧ feedAudience school reader p = true) ∧
          s = h.db.withComments p := by
    simp only [listMediaFeed, List.mem_map, List.mem_append, List.mem_filter, List.mem_reverse,
      Bool.and_eq_true, decide_eq_true_eq, and_assoc]
    constructor
    · rintro ⟨p, ⟨mem, tenant, published, type, audience, -⟩ |
        ⟨mem, tenant, published, type, audience, -⟩, rfl⟩ <;>
      exact ⟨p, mem, tenant, published, type, audience, rfl⟩
    · rintro ⟨p, mem, tenant, published, type, audience, rfl⟩
      refine ⟨p, ?_, rfl⟩
      cases p.isPinned
      · exact .inr ⟨mem, tenant, published, type, audience, rfl⟩
      · exact .inl ⟨mem, tenant, published, type, audience, rfl⟩
  have posts (p : ProfileBlog) :
      p ∈ (listMediaFeed school h.db tenantId reader postType).map (·.post) ↔
        p ∈ h.db.posts.rows ∧ p.tenantId = tenantId ∧ p.isPublished = true ∧
          ofType postType p = true ∧ feedAudience school reader p = true := by
    rw [List.mem_map]
    constructor
    · rintro ⟨s, mem, rfl⟩
      obtain ⟨p, found, rfl⟩ := (shown s).mp mem
      exact found
    · exact fun found => ⟨_, (shown _).mpr ⟨p, found, rfl⟩, rfl⟩
  unfold Kept Fits
  dsimp only
  rw [rightly_iff faithful (fun s mem => ((posts s.post).mp (List.mem_map_of_mem mem)).1)
    (fun s mem cs isCs => by obtain ⟨p, -, rfl⟩ := (shown s).mp mem; cases isCs; rfl)]
  constructor
  · rintro ⟨right, comments⟩ p mem tenant published type
    have same := (posts p).symm.trans (right p mem)
    split
    · rename_i unmarked
      constructor
      · refine agrees_iff_includes.mpr ⟨fun audience => ?_, fun includes => ?_⟩
        · exact (same.mp ⟨mem, tenant, published, type, audience⟩).2.2.2
        · exact (same.mpr ⟨⟨tenant, type⟩, published, unmarked, includes⟩).2.2.2.2
      · exact fun audience => comments _
          ((shown _).mpr ⟨p, ⟨mem, tenant, published, type, audience⟩, rfl⟩) _ rfl
    · rename_i marked
      by_contra audience
      exact marked (same.mp ⟨mem, tenant, published, type, by simpa using audience⟩).2.2.1
  · intro fits
    refine ⟨fun p mem => (posts p).trans ⟨?_, ?_⟩, fun s mem cs isCs => ?_⟩
    · rintro ⟨-, tenant, published, type, audience⟩
      have fit := fits p mem tenant published type
      split at fit
      · rename_i unmarked
        exact ⟨⟨tenant, type⟩, published, unmarked, (agrees_iff_includes.mp fit.1).mp audience⟩
      · rw [fit] at audience
        cases audience
    · rintro ⟨⟨tenant, type⟩, published, unmarked, includes⟩
      have fit := fits p mem tenant published type
      rw [if_pos unmarked] at fit
      exact ⟨mem, tenant, published, type, (agrees_iff_includes.mp fit.1).mpr includes⟩
    · obtain ⟨p, ⟨memP, tenant, published, type, audience⟩, rfl⟩ := (shown s).mp mem
      have fit := fits p memP tenant published type
      split at fit
      · exact fit.2 audience
      · rw [fit] at audience
        cases audience

theorem listBlogPosts_iff {tenantId : Id} {authorId : Option Id} (faithful : Faithful h) :
    Kept school h (.listBlogPosts tenantId reader authorId) ↔
      Fits school h (.listBlogPosts tenantId reader authorId) := by
  have posts (p : ProfileBlog) :
      p ∈ (listBlogPosts h.db tenantId authorId).map (·.post) ↔
        p ∈ h.db.posts.rows ∧ p.tenantId = tenantId ∧ (∀ a ∈ authorId, p.authorId = a) ∧
          p.isPublished = true := by
    cases authorId <;> simp [listBlogPosts, and_assoc]
  have plain (s : Shown) (mem : s ∈ listBlogPosts h.db tenantId authorId) : s.comments = none := by
    obtain ⟨p, -, rfl⟩ := List.mem_map.mp mem
    rfl
  unfold Kept Fits
  dsimp only
  rw [rightly_iff faithful (fun s mem => ((posts s.post).mp (List.mem_map_of_mem mem)).1)
    (fun s mem cs isCs => by rw [plain s mem] at isCs; cases isCs)]
  constructor
  · rintro ⟨right, -⟩ p mem tenant author published
    exact ((right p mem).mp ((posts p).mpr ⟨mem, tenant, author, published⟩)).2.2
  · intro fits
    refine ⟨fun p mem => (posts p).trans ⟨?_, ?_⟩, fun s mem cs isCs => ?_⟩
    · rintro ⟨-, tenant, author, published⟩
      exact ⟨⟨tenant, author⟩, published, fits p mem tenant author published⟩
    · rintro ⟨⟨tenant, author⟩, published, -⟩
      exact ⟨mem, tenant, author, published⟩
    · rw [plain s mem] at isCs
      cases isCs

/-- The slug is unique in its school, so the page is of the one post that was asked for. -/
theorem getBlogPostBySlug_iff {tenantId : Id} {slug : String} (faithful : Faithful h) :
    Kept school h (.getBlogPostBySlug tenantId reader slug) ↔
      Fits school h (.getBlogPostBySlug tenantId reader slug) := by
  unfold Kept Fits getBlogPostBySlug
  dsimp only
  cases found : h.db.posts.rows.find? (fun p => p.tenantId = tenantId ∧ p.slug = slug) with
  | none =>
    have missing (p : ProfileBlog) (mem : p ∈ h.db.posts.rows) (tenant : p.tenantId = tenantId) :
        p.slug ≠ slug := by
      have differs := List.find?_eq_none.mp found p mem
      simpa [tenant] using differs
    refine iff_of_true ⟨List.forall_mem_nil _, fun p mem => ?_, List.forall_mem_nil _⟩
      fun p mem tenant asked => absurd asked (missing p mem tenant)
    exact iff_of_false List.not_mem_nil fun ⟨⟨tenant, asked⟩, _⟩ => missing p mem tenant asked
  | some post =>
    have mem := List.mem_of_find?_eq_some found
    have asked := List.find?_some found
    simp only [decide_eq_true_eq] at asked
    have only (p : ProfileBlog) (memP : p ∈ h.db.posts.rows) (tenant : p.tenantId = tenantId)
        (ofSlug : p.slug = slug) : p = post := by
      by_contra differ
      have clash := h.db.posts.no_clash p memP post mem fun same =>
        differ (h.db.posts.eq_of_key_eq memP mem same)
      simp [Record.clash, tenant, ofSlug, asked.1, asked.2] at clash
    change Rightly school h _ reader [h.db.withComments post] ↔ _
    rw [rightly_iff faithful (fun s memS => by rw [List.mem_singleton.mp memS]; exact mem)
      (fun s memS cs isCs => by rw [List.mem_singleton.mp memS] at isCs ⊢; cases isCs; rfl)]
    constructor
    · rintro ⟨right, comments⟩ p memP tenant ofSlug
      obtain rfl := only p memP tenant ofSlug
      exact ⟨((right p memP).mp List.mem_cons_self).2, comments _ List.mem_cons_self _ rfl⟩
    · intro fits
      obtain ⟨right, comments⟩ := fits post mem asked.1 asked.2
      refine ⟨fun p memP => ⟨fun shown => ?_, fun ⟨⟨tenant, ofSlug⟩, _⟩ => ?_⟩,
        fun s memS _ _ => ?_⟩
      · obtain rfl : p = post := by simpa [Db.withComments] using shown
        exact ⟨asked, right⟩
      · obtain rfl := only p memP tenant ofSlug
        exact List.mem_cons_self
      · rw [List.mem_singleton.mp memS]
        exact comments

theorem kept_iff_fits (faithful : Faithful h) (call : Call) :
    Kept school h call ↔ Fits school h call := by
  cases call with
  | listMediaFeed tenantId reader postType => exact listMediaFeed_iff faithful
  | listBlogPosts tenantId reader authorId => exact listBlogPosts_iff faithful
  | getBlogPostBySlug tenantId reader slug => exact getBlogPostBySlug_iff faithful
  | _ => exact Iff.rfl

end

/-! ### Runs -/

/-- **Out of sight.** Along a run every reading is right exactly if every reading fits. -/
theorem out_of_sight_iff {school : School} {h : History} (faithful : Faithful h)
    (calls : List Call) :
    Along (step school) (Kept school) h calls ↔ Along (step school) (Fits school) h calls :=
  along_iff (I := Faithful) (D := fun _ _ => True)
    (fun _ call _ faithful => kept_iff_fits faithful call)
    (fun _ call _ _ faithful => step_faithful faithful call) faithful
    (along_of_forall fun _ _ => trivial)

instance (school : School) (h : History) (asked : ProfileBlog → Prop) [DecidablePred asked]
    (reader : Option Viewer) (shown : List Shown) :
    Decidable (Rightly school h asked reader shown) :=
  decidable_of_iff
    ((∀ s ∈ shown, s.post ∈ h.db.posts.rows ∧
        ∀ cs ∈ s.comments, ∀ c ∈ cs, c ∈ h.db.comments.rows) ∧
      (∀ p ∈ h.db.posts.rows, p ∈ shown.map (·.post) ↔
        asked p ∧ p.isPublished = true ∧ isLive h.posts p.id = true ∧ Includes school reader p) ∧
      ∀ s ∈ shown, ∀ cs ∈ s.comments, ∀ c ∈ h.db.comments.rows,
        c ∈ cs ↔ c.blogId = s.post.id ∧ isLive h.comments c.id = true)
    ⟨fun ⟨a, b, c⟩ => ⟨a, b, c⟩, fun ⟨a, b, c⟩ => ⟨a, b, c⟩⟩

instance (school : School) (h : History) (call : Call) : Decidable (Kept school h call) := by
  cases call <;> unfold Kept <;> infer_instance

instance (school : School) (reader : Option Viewer) (p : ProfileBlog) :
    Decidable (Agrees school reader p) := by
  unfold Agrees
  rcases reader with _ | ⟨id, _ | _⟩ <;> dsimp only <;> infer_instance

instance (school : School) (h : History) (call : Call) : Decidable (Fits school h call) := by
  cases call <;> unfold Fits <;> infer_instance

/-! ### The magazine of a school -/

namespace Magazine

/-- A student in two classes, and the head of the school. -/
def school : School where
  users := ⟨[⟨11⟩, ⟨30⟩], by decide, by decide⟩
  students := ⟨[⟨1, 11⟩], by decide, by decide⟩
  enrollments := [⟨1, 5, true⟩, ⟨1, 6, true⟩]

def student : Viewer := ⟨11, .student⟩

def post (slug : String) (audience : String) (classroomIds : List Id) : Call :=
  .createBlogPost 1 30
    { slug := some slug, audienceType := some audience, targetClassroomIds := classroomIds } ""

end Magazine

open Magazine

/-- A post for everyone and one for a class; a comment, and all of it deleted and restored. -/
theorem out_of_sight_magazine : Along (step Magazine.school) (Kept Magazine.school) {}
    [Magazine.post "open" "ALL" [], .addComment 1 1 11, .listBlogPosts 1 none none,
      .deleteBlogPost 1 1 none 10, .restoreBlogPost 1 1, .deleteComment 1 1 student 11,
      .restoreBlogComment 1 1, .getBlogPostBySlug 1 none "open",
      Magazine.post "fifth" "CLASSROOMS" [5], .listMediaFeed 1 (some student) none] :=
  (out_of_sight_iff faithful_empty _).mpr (by decide +kernel)

/-- A deleted post in the public list, a deleted comment on the page, a post for a class shown to
anyone, and a post for the second class of a student that the student is not shown. -/
theorem not_out_of_sight : (¬ Along (step Magazine.school) (Kept Magazine.school) {}
      [Magazine.post "open" "ALL" [], .deleteBlogPost 1 1 none 10, .listBlogPosts 1 none none]) ∧
    (¬ Along (step Magazine.school) (Kept Magazine.school) {}
      [Magazine.post "open" "ALL" [], .addComment 1 1 11, .deleteComment 1 1 student 10,
        .getBlogPostBySlug 1 none "open"]) ∧
    (¬ Along (step Magazine.school) (Kept Magazine.school) {}
      [Magazine.post "fifth" "CLASSROOMS" [5], .listBlogPosts 1 none none]) ∧
    ¬ Along (step Magazine.school) (Kept Magazine.school) {}
      [Magazine.post "sixth" "CLASSROOMS" [6], .listMediaFeed 1 (some student) none] := by
  refine ⟨?_, ?_, ?_, ?_⟩ <;> decide +kernel

end Rokad.Profiles
