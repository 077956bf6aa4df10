/-
This file holds the settings that carry credentials and the names under which they are kept.
-/

namespace CredentialResolution

inductive Setting where
  | accessKeyId
  | secretAccessKey
  | sessionToken
  | roleArn
  | roleSessionName
  | webIdentityTokenFile
  deriving DecidableEq

namespace Setting

/-- Sources are asked for the settings in this order. -/
def all : List Setting :=
  [accessKeyId, secretAccessKey, sessionToken, roleArn, roleSessionName, webIdentityTokenFile]

def environmentVariable : Setting → String
  | accessKeyId => "AWS_ACCESS_KEY_ID"
  | secretAccessKey => "AWS_SECRET_ACCESS_KEY"
  | sessionToken => "AWS_SESSION_TOKEN"
  | roleArn => "AWS_ROLE_ARN"
  | roleSessionName => "AWS_ROLE_SESSION_NAME"
  | webIdentityTokenFile => "AWS_WEB_IDENTITY_TOKEN_FILE"

def property : Setting → String
  | accessKeyId => "aws.accessKeyId"
  | secretAccessKey => "aws.secretAccessKey"
  | sessionToken => "aws.sessionToken"
  | roleArn => "aws.roleArn"
  | roleSessionName => "aws.roleSessionName"
  | webIdentityTokenFile => "aws.webIdentityTokenFile"

/-- This is the name that error messages use. -/
def description : Setting → String
  | accessKeyId => "Access key"
  | secretAccessKey => "Secret key"
  | sessionToken => "Session token"
  | roleArn => "Role ARN"
  | roleSessionName => "Role session name"
  | webIdentityTokenFile => "Web identity token file"

/-- This is the name of the setting itself. -/
def name : Setting → String
  | accessKeyId => "AccessKeyId"
  | secretAccessKey => "SecretAccessKey"
  | sessionToken => "SessionToken"
  | roleArn => "RoleArn"
  | roleSessionName => "RoleSessionName"
  | webIdentityTokenFile => "WebIdentityTokenFile"

def ofName? (name : String) : Option Setting :=
  all.find? fun setting => setting.name == name

end Setting

end CredentialResolution
