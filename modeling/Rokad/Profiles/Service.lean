import Rokad.Base.Run
import Rokad.Common.Http
import Rokad.Common.Jalali

/-!
# Posts

The posts of a school and their comments. A deletion marks the row, and a restoration takes the
mark away. Three calls read: the feed, which asks who reads; the public list and the page of a
post, which do not.
-/

namespace Rokad.Profiles

open Rokad.Base Rokad.Common

/-! ### Tables -/

structure User where
  id : Id

structure StudentProfile where
  (id userId : Id)

structure ClassEnrollment where
  (studentId classroomId : Id)
  isActive : Bool := true

structure ParentProfile where
  (id userId : Id)

structure StudentParentLink where
  (parentId studentId : Id)

structure ProfileBlog where
  (id tenantId authorId : Id)
  (slug postType audienceType : String)
  targetRoles : List String
  targetClassroomIds : List Id
  (isPinned allowComments isPublished : Bool)
  deletedAt : Option Instant := none
deriving DecidableEq

structure ProfileBlogComment where
  (id tenantId blogId authorId : Id)
  deletedAt : Option Instant := none
deriving DecidableEq

instance : Record User := { key := (·.id) }

instance : Record StudentProfile where
  key s := s.id
  clash a b := a.userId == b.userId

instance : Record ParentProfile where
  key p := p.id
  clash a b := a.userId == b.userId

instance : Record ProfileBlog where
  key p := p.id
  clash a b := a.tenantId == b.tenantId && a.slug == b.slug

instance : Record ProfileBlogComment := { key := (·.id) }

/-- What the calls only read. -/
structure School where
  users : Table User := .empty
  students : Table StudentProfile := .empty
  parents : Table ParentProfile := .empty
  enrollments : List ClassEnrollment := []
  studentLinks : List StudentParentLink := []

structure Db where
  posts : Table ProfileBlog := .empty
  comments : Table ProfileBlogComment := .empty

/-! ### Writing -/

structure CreateBlogPostDto where
  (slug postType : Option String := none)
  mediaUrls : List String := []
  hasAttachments : Bool := false
  audienceType : Option String := none
  targetRoles : List String := []
  targetClassroomIds : List Id := []
  isPinned : Bool := false
  (allowComments isPublished : Option Bool := none)

def CreateBlogPostDto.type (dto : CreateBlogPostDto) : String :=
  (truthy dto.postType).getD
    (if dto.mediaUrls.length > 1 then "SLIDESHOW" else if dto.hasAttachments then "DOCUMENT"
      else "STANDARD")

def newPost (tenantId authorId : Id) (dto : CreateBlogPostDto) (slug : String) (id : Id) :
    ProfileBlog where
  id
  tenantId
  authorId
  slug
  postType := dto.type
  audienceType := (truthy dto.audienceType).getD "ALL"
  targetRoles := dto.targetRoles
  targetClassroomIds := dto.targetClassroomIds
  isPinned := dto.isPinned
  allowComments := dto.allowComments.getD true
  isPublished := dto.isPublished.getD true

section

variable (school : School) (tenantId : Id)

/-- `generated` is the address drawn for a post without one. -/
def createBlogPost (authorId : Id) (dto : CreateBlogPostDto) (generated : String) (db : Db) :
    Result Db := do
  let slug := (truthy (dto.slug.map trim)).getD generated
  require (∀ p ∈ db.posts.rows, ¬(p.tenantId = tenantId ∧ p.slug = slug))
    (.conflict "مقاله‌ای با این اسلاگ در این مدرسه قبلاً ثبت شده است")
  referred school.users (some authorId)
  let posts ← insertRow db.posts (newPost tenantId authorId dto slug db.posts.fresh)
  return { db with posts }

/-- `findFirst` of a post of the school. -/
def Db.post (db : Db) (tenantId postId : Id) : Option ProfileBlog :=
  (db.posts.find? postId).filter fun p => p.tenantId = tenantId

def Db.comment (db : Db) (tenantId commentId : Id) : Option ProfileBlogComment :=
  (db.comments.find? commentId).filter fun c => c.tenantId = tenantId

def ProfileBlog.mark (deletedAt : Option Instant) (p : ProfileBlog) : ProfileBlog :=
  { p with deletedAt }

def ProfileBlogComment.mark (deletedAt : Option Instant) (c : ProfileBlogComment) :
    ProfileBlogComment := { c with deletedAt }

theorem ProfileBlog.key_mark (deletedAt : Option Instant) (p : ProfileBlog) :
    Record.key (p.mark deletedAt) = Record.key p := rfl

theorem ProfileBlogComment.key_mark (deletedAt : Option Instant) (c : ProfileBlogComment) :
    Record.key (c.mark deletedAt) = Record.key c := rfl

def Db.markPost (db : Db) (postId : Id) (deletedAt : Option Instant) : Result Db := do
  let posts ← updateRow db.posts postId (·.mark deletedAt) (ProfileBlog.key_mark deletedAt)
  return { db with posts }

def Db.markComment (db : Db) (commentId : Id) (deletedAt : Option Instant) :
    Result Db := do
  let comments ← updateRow db.comments commentId (·.mark deletedAt)
    (ProfileBlogComment.key_mark deletedAt)
  return { db with comments }

/-- A user who asks to delete: unless it is nobody's business, it must be the author or staff. -/
structure Viewer where
  id : Id
  role : UserRole

def deleteBlogPost (postId : Id) (user : Option Viewer) (now : Instant) (db : Db) :
    Result Db := do
  let post ← orFail (db.post tenantId postId) (.notFound "مقاله مورد نظر یافت نشد")
  require (∀ u ∈ user, post.authorId = u.id ∨ u.role.isStaffOrAdmin = true)
    (.conflict "شما دسترسی حذف این پست را ندارید")
  db.markPost postId (some now)

def restoreBlogPost (postId : Id) (db : Db) : Result Db := do
  let _ ← orFail ((db.post tenantId postId).filter (·.deletedAt.isSome))
    (.notFound "مقاله حذف‌شده مورد نظر یافت نشد")
  db.markPost postId none

def addComment (postId authorId : Id) (db : Db) : Result Db := do
  let post ← orFail (db.post tenantId postId) (.notFound "پست مورد نظر یافت نشد")
  require (post.allowComments = true)
    (.conflict "امکان ثبت نظر برای این پست غیرفعال است")
  referred school.users (some authorId)
  let comments ← insertRow db.comments
    { id := db.comments.fresh, tenantId, blogId := postId, authorId }
  return { db with comments }

def deleteComment (commentId : Id) (user : Viewer) (now : Instant) (db : Db) :
    Result Db := do
  let comment ← orFail (db.comment tenantId commentId) (.notFound "نظر مورد نظر یافت نشد")
  require (comment.authorId = user.id ∨ user.role.isStaffOrAdmin = true)
    (.conflict "شما دسترسی حذف این نظر را ندارید")
  db.markComment commentId (some now)

def restoreBlogComment (commentId : Id) (db : Db) : Result Db := do
  let _ ← orFail ((db.comment tenantId commentId).filter (·.deletedAt.isSome))
    (.notFound "دیدگاه حذف‌شده مورد نظر یافت نشد")
  db.markComment commentId none

end

/-! ### Reading -/

/-- A post as a call returns it, with its comments where the call includes them. -/
structure Shown where
  post : ProfileBlog
  comments : Option (List ProfileBlogComment)

variable (school : School) (db : Db) (tenantId : Id)

def Db.commentsOf (postId : Id) : List ProfileBlogComment :=
  db.comments.rows.filter fun c => c.blogId = postId

def Db.withComments (p : ProfileBlog) : Shown := ⟨p, some (db.commentsOf p.id)⟩

/-- The active classes of a student, in the order of the table. -/
def School.activeClasses (studentId : Id) : List Id :=
  (school.enrollments.filter fun e => e.studentId = studentId ∧ e.isActive).map (·.classroomId)

def School.ownClasses (userId : Id) : List Id :=
  match school.students.rows.find? fun s => s.userId = userId with
  | some s => school.activeClasses s.id
  | none => []

def School.childrensClasses (userId : Id) : List Id :=
  match school.parents.rows.find? fun p => p.userId = userId with
  | some p => (school.studentLinks.filter fun l => l.parentId = p.id).flatMap fun l =>
    school.activeClasses l.studentId
  | none => []

/-- `{ audienceType: 'ALL' }, { targetRoles: { has: role } }` -/
def ProfileBlog.isOpenTo (p : ProfileBlog) (role : UserRole) : Bool :=
  p.audienceType = "ALL" || p.targetRoles.contains role.text

def ProfileBlog.targetsSome (p : ProfileBlog) (classroomIds : List Id) : Bool :=
  classroomIds.any p.targetClassroomIds.contains

/-- The audience filter of the feed. Without a user, and for a role it does not name, there is
none. -/
def feedAudience (user : Option Viewer) (p : ProfileBlog) : Bool :=
  match user with
  | none => true
  | some u =>
    match u.role with
    | .superAdmin | .schoolAdmin | .staff | .coach => true
    | .teacher => p.isOpenTo .teacher || p.authorId = u.id
    -- the first of the classes only
    | .student => p.isOpenTo .student || p.targetsSome ((school.ownClasses u.id).take 1)
    | .parent => p.isOpenTo .parent || p.targetsSome (school.childrensClasses u.id)

/-- `postType` of the query, where it asks for one. -/
def ofType (postType : Option String) (p : ProfileBlog) : Bool :=
  match truthy postType with
  | some type => type = "ALL" || p.postType = type
  | none => true

/-- Pinned posts first, then the latest. -/
def listMediaFeed (user : Option Viewer) (postType : Option String) : List Shown :=
  let found := (db.posts.rows.filter fun p =>
    p.tenantId = tenantId && p.isPublished && ofType postType p &&
      feedAudience school user p).reverse
  (found.filter (·.isPinned) ++ found.filter fun p => !p.isPinned).map db.withComments

/-- The public list, the latest first. -/
def listBlogPosts (authorId : Option Id) : List Shown :=
  (db.posts.rows.filter fun p =>
    p.tenantId = tenantId && authorId.all (p.authorId = ·) && p.isPublished).reverse.map
      fun p => ⟨p, none⟩

/-- The page of a post. That it is counted as seen is left out. -/
def getBlogPostBySlug (slug : String) : Result Shown := do
  let post ← orFail (db.posts.rows.find? fun p => p.tenantId = tenantId ∧ p.slug = slug)
    (.notFound "مقاله مورد نظر یافت نشد")
  return db.withComments post

end Rokad.Profiles
