import Turnstile.Language

namespace Turnstile

/-!
# Rejections

What a caller is told when a rule of the business refuses a request. Each rejection has a stable code,
an HTTP status, and a message in each language; none of them is a fault of the system.

* `Rejection.all` lists them in the order of the catalogue.
* `Rejection.localize` is what the caller is shown.
-/

/-- A refusal by a rule of the business. -/
inductive Rejection where
  | internalServerError
  | requestTimeout
  | authorizationMissing
  | authorizationInvalid
  | authorizationWrong
  | authorizationExpired
  | userMissing
  | userNotFound
  | userIdMissing
  | userCreateParamsMissing
  | userUpdateParamsMissing
  | userEmailExists
  | userEmailMissing
  | userEmailInvalid
  | userPasswordMissing
  | userPasswordInvalid
  | userGivenNamesMissing
  | userGivenNamesInvalid
  | userSurnameMissing
  | userSurnameInvalid
  | userSessionNotFound
  | userSessionCreateParamsMissing
  | userSessionPurposeMissing
  | userSessionPurposeInvalid
  | userSessionCredentialsInvalid
  | userSessionPasswordMissing
  deriving DecidableEq, Repr

/-- The catalogue's entry for a rejection. -/
structure Rejection.Entry where
  status : Nat
  turkish : String
  english : String

/-- What a caller is shown. -/
structure Localized where
  code : String
  message : String
  deriving DecidableEq, Repr

namespace Rejection

/-- The code that clients match on. -/
def code : Rejection → String
  | .internalServerError => "internalServerError"
  | .requestTimeout => "requestTimeout"
  | .authorizationMissing => "authorizationMissing"
  | .authorizationInvalid => "authorizationInvalid"
  | .authorizationWrong => "authorizationWrong"
  | .authorizationExpired => "authorizationExpired"
  | .userMissing => "userMissing"
  | .userNotFound => "userNotFound"
  | .userIdMissing => "userIdMissing"
  | .userCreateParamsMissing => "userCreateParamsMissing"
  | .userUpdateParamsMissing => "userUpdateParamsMissing"
  | .userEmailExists => "userEmailExists"
  | .userEmailMissing => "userEmailMissing"
  | .userEmailInvalid => "userEmailInvalid"
  | .userPasswordMissing => "userPasswordMissing"
  | .userPasswordInvalid => "userPasswordInvalid"
  | .userGivenNamesMissing => "userGivenNamesMissing"
  | .userGivenNamesInvalid => "userGivenNamesInvalid"
  | .userSurnameMissing => "userSurnameMissing"
  | .userSurnameInvalid => "userSurnameInvalid"
  | .userSessionNotFound => "userSessionNotFound"
  | .userSessionCreateParamsMissing => "userSessionCreateParamsMissing"
  | .userSessionPurposeMissing => "userSessionPurposeMissing"
  | .userSessionPurposeInvalid => "userSessionPurposeInvalid"
  | .userSessionCredentialsInvalid => "userSessionCredentialsInvalid"
  | .userSessionPasswordMissing => "userSessionPasswordMissing"

/-- Status and messages. -/
def entry : Rejection → Entry
  | .internalServerError =>
    ⟨500, "Beklenmedik bir hata oluştu. Lütfen daha sonra tekrar dene.",
     "An unexpected error occurred. Please try again later."⟩
  | .requestTimeout =>
    ⟨408, "İşlem yapmak için gerekli olan süre aşıldı. Lütfen daha sonra tekrar dene.",
     "The time required to perform the operation has expired. Please try again later."⟩
  | .authorizationMissing => ⟨401, "Kullanıcı oturum kodu eksik.", "Authorization is missing."⟩
  | .authorizationInvalid => ⟨401, "Kullanıcı oturum kodu geçersiz.", "Authorization is invalid."⟩
  | .authorizationWrong => ⟨401, "Kullanıcı oturum kodu hatalı.", "Authorization is wrong."⟩
  | .authorizationExpired =>
    ⟨401, "Kullanıcı oturum kodu süresi geçmiş.",
     "Authorization is expired."⟩
  | .userMissing => ⟨400, "Kullanıcı bulunamadı.", "User not found."⟩
  | .userNotFound => ⟨404, "Kullanıcı bulunamadı.", "User not found."⟩
  | .userIdMissing => ⟨400, "Kullanıcı kimliği eksik.", "User id is missing."⟩
  | .userCreateParamsMissing =>
    ⟨400, "Lütfen tüm eksik alanları doldur.",
     "Please fill in all missing fields."⟩
  | .userUpdateParamsMissing =>
    ⟨400, "Lütfen tüm eksik alanları doldur.",
     "Please fill in all missing fields."⟩
  | .userEmailExists =>
    ⟨409, "Bu e-posta adresi zaten kayıtlı.",
     "This email address is already registered."⟩
  | .userEmailMissing => ⟨400, "Kullanıcı e-posta adresi eksik.", "User email address is missing."⟩
  | .userEmailInvalid => ⟨400, "Kullanıcı e-posta adresi geçersiz.", "User email address is invalid."⟩
  | .userPasswordMissing => ⟨400, "Kullanıcı şifresi eksik.", "User password is missing."⟩
  | .userPasswordInvalid =>
    ⟨400, "Kullanıcı şifresi en az 6 karakter uzunluğunda olmalı.",
     "User password must be at least 6 characters long."⟩
  | .userGivenNamesMissing => ⟨400, "Kullanıcı ismi eksik.", "User given names are missing."⟩
  | .userGivenNamesInvalid => ⟨400, "Kullanıcı ismi geçersiz.", "User given names are invalid."⟩
  | .userSurnameMissing => ⟨400, "Kullanıcı soyismi eksik.", "User surname is missing."⟩
  | .userSurnameInvalid => ⟨400, "Kullanıcı soyismi geçersiz.", "User surname is invalid."⟩
  | .userSessionNotFound => ⟨404, "Kullanıcı oturumu bulunamadı.", "Session not found."⟩
  | .userSessionCreateParamsMissing =>
    ⟨400, "Lütfen tüm eksik alanları doldur.",
     "Please fill in all missing fields."⟩
  | .userSessionPurposeMissing =>
    ⟨400, "Lütfen oturum açma amacını belirtin.",
     "Please specify the purpose of the session."⟩
  | .userSessionPurposeInvalid => ⟨400, "Oturum açma amacı geçersiz.", "Session purpose is invalid."⟩
  | .userSessionCredentialsInvalid =>
    ⟨401, "E-posta adresi veya şifre geçersiz.",
     "Email address or password is invalid."⟩
  | .userSessionPasswordMissing => ⟨401, "Şifre eksik.", "Password is missing."⟩

/-- The HTTP status to answer with. -/
def status (r : Rejection) : Nat := r.entry.status

/-- The message in a language. -/
def message (r : Rejection) : Language → String
  | .turkish => r.entry.turkish
  | .english => r.entry.english

/-- Code and message in a language. -/
def localize (r : Rejection) (l : Language) : Localized := ⟨r.code, r.message l⟩

/-- The name shown to operators: the code with a capital. -/
def label (r : Rejection) : String := r.code.capitalize

/-- The catalogue in order. -/
def all : List Rejection :=
  [.internalServerError, .requestTimeout, .authorizationMissing,
   .authorizationInvalid, .authorizationWrong, .authorizationExpired,
   .userMissing, .userNotFound, .userIdMissing,
   .userCreateParamsMissing, .userUpdateParamsMissing, .userEmailExists,
   .userEmailMissing, .userEmailInvalid, .userPasswordMissing,
   .userPasswordInvalid, .userGivenNamesMissing, .userGivenNamesInvalid,
   .userSurnameMissing, .userSurnameInvalid, .userSessionNotFound,
   .userSessionCreateParamsMissing, .userSessionPurposeMissing, .userSessionPurposeInvalid,
   .userSessionCredentialsInvalid, .userSessionPasswordMissing]

/-- The rejection with a given code. -/
def ofCode? (code : String) : Option Rejection := all.find? (·.code == code)

theorem mem_all (r : Rejection) : r ∈ all := by cases r <;> decide

theorem ofCode?_code (r : Rejection) : ofCode? r.code = some r := by cases r <;> decide +kernel

end Rejection

end Turnstile
